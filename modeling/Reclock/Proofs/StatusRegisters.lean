/-
**Status registers follow their controls.**

The sequences wait for statuses, and rely on it that a status shows what its control register has
been asked for.  In the modelled hardware the two are separate registers, each of which is stored
and lost on its own: a write to the control stores the status along with it, the power going takes
both away, and the power coming back gives some of them a value of their own.  Yet they never come
to disagree, as long as nobody writes the statuses themselves.

Main definitions:

* `Reclock.Register.indicators` — the statuses that are only to be read;
* `Reclock.Hardware.Driven` — **hardware that has booted, and has been read and written since**;
* `Reclock.Hardware.Reports`, `Reclock.Hardware.Consistent` — **every status agrees with what it
  reports on**.

Main results:

* `Reclock.Hardware.related_of_effect` — a status and its control stay related in all writes if
  they are in the writes to the control;
* `Reclock.Hardware.Consistent.effect`, `Consistent.requestDown`, `Consistent.requestUp` — what a
  write preserves;
* `Reclock.Hardware.statuses_follow` — **statuses follow their controls**.
-/

import Reclock.Proofs.PowerCycle

set_option relaxedAutoImplicit false
set_option autoImplicit false

namespace Reclock

namespace Register

/-- The statuses that are only to be read: they say what the controller, the PHY and the sequencer
are doing. -/
def indicators : List Register :=
  [Ddrc.stat, Ddrc.swstat, Ddrc.dfistat, Phy.lpStat, Phy.resetStat, FastSwitch.stat]

end Register

namespace Hardware

variable {h h' : Hardware} {r : Register} {v : UInt32}

/-! ### Reads and writes since booting -/

/-- **Hardware that has booted, and has been read and written since.**  Its indicators have not been
written, and no access has been refused. -/
inductive Driven : Hardware → Prop
  | booted : Driven booted
  | read {h h' : Hardware} {r : Register} {v : UInt32} (hdriven : Driven h)
      (hread : read r h = .ok (v, h')) : Driven h'
  | write {h h' : Hardware} {r : Register} {v : UInt32} (hdriven : Driven h)
      (hr : r ∉ Register.indicators) (hwrite : write r v h = .ok h') : Driven h'

/-! ### Statuses that agree -/

/-- **The statuses in the power domain report what their controls ask for.**  The two bits of the
DFI agree in one direction only: initialisation that is no longer asked for may never have been
complete. -/
structure Reports (h : Hardware) : Prop where
  mode : h.value Ddrc.stat =
    if h.value Ddrc.pwrctl &&& Ddrc.selfRefreshForced = 0 then Ddrc.modeNormal
    else forcedSelfRefresh
  closed : h.value Ddrc.swstat &&& Ddrc.swDoneAck = h.value Ddrc.swctl &&& Ddrc.swDone
  held : h.value Phy.lpStat &&& Phy.holdActive = h.value Phy.lpCtrl &&& Phy.holdRequest
  complete : h.value Ddrc.dfistat &&& Ddrc.dfiComplete ≠ 0 →
    h.value Ddrc.dfimisc &&& Ddrc.dfiInitStart = 0

/-- The cold reset of the PHY is complete. -/
def ResetOver (powered : Bool) (control : UInt32) : Prop :=
  powered = true ∧ control &&& Reset.phyPowerOk ≠ 0 ∧ control &&& Reset.phyReset = 0

instance (powered : Bool) (control : UInt32) : Decidable (ResetOver powered control) :=
  inferInstanceAs (Decidable (_ ∧ _))

/-- **Every status agrees with what it reports on**, and what has no power holds nothing. -/
structure Consistent (h : Hardware) : Prop where
  locked : h.value Clock.pllControl &&& Clock.pllLock ≠ 0 ↔
    h.value Clock.pllControl &&& Clock.pllRun ≠ 0
  stopped : h.value FastSwitch.stat =
    if h.value FastSwitch.ctrl &&& FastSwitch.stopRequest ≠ 0 then FastSwitch.stopped else 0
  reset : h.value Phy.resetStat =
    if ResetOver h.powered (h.value Reset.control) then Phy.coldResetDone else 0
  reports : h.powered = true → h.Reports
  lost : h.powered = false → ∀ r : Register, r.window.inDramDomain = true → h.value r = 0

/-- The requests for power are of no account, and neither is anything but registers and power. -/
theorem Consistent.of_values (hconsistent : h.Consistent)
    (hvalues : ∀ q, q ∉ Register.requests → h'.value q = h.value q)
    (hpowered : h'.powered = h.powered) : h'.Consistent where
  locked := by
    rw [hvalues _ (by decide)]
    exact hconsistent.locked
  stopped := by
    rw [hvalues _ (by decide), hvalues _ (by decide)]
    exact hconsistent.stopped
  reset := by
    rw [hvalues _ (by decide), hvalues _ (by decide), hpowered]
    exact hconsistent.reset
  reports hon := by
    obtain ⟨hmode, hclosed, hheld, hcomplete⟩ := hconsistent.reports (hpowered.symm.trans hon)
    refine ⟨?_, ?_, ?_, ?_⟩ <;> rw [hvalues _ (by decide), hvalues _ (by decide)]
    · exact hmode
    · exact hclosed
    · exact hheld
    · exact hcomplete
  lost hoff q hq := by
    have hrequests : ∀ q ∈ Register.requests, q.window.inDramDomain = false := by decide
    have hrequest : q ∉ Register.requests := fun hmem => by
      rw [hrequests q hmem] at hq
      cases hq
    rw [hvalues q hrequest]
    exact hconsistent.lost (hpowered.symm.trans hoff) q hq

theorem consistent_booted : booted.Consistent := by
  have hlost : booted.powered = false → ∀ r : Register, r.window.inDramDomain = true →
      booted.value r = 0 := nofun
  refine ⟨by decide +kernel, by decide +kernel, by decide +kernel, fun _ => ?_, hlost⟩
  exact ⟨by decide +kernel, by decide +kernel, by decide +kernel, by decide +kernel⟩

/-! ### What a write does to a status -/

/-- **A status and its control stay related** in all writes if they are in the writes to the
control, since a write to any other register changes neither. -/
theorem related_of_effect (control status : Register) (R : UInt32 → UInt32 → Prop)
    (hpair : (control, status) ∈ Register.followed) (hstatus : status ∈ Register.indicators)
    (hrequest : r ∉ Register.requests) (hr : r ∉ Register.indicators)
    (heffect : h.effect r v = .ok h')
    (hwritten : r = control → R (h'.value control) (h'.value status))
    (hR : R (h.value control) (h.value status)) : R (h'.value control) (h'.value status) := by
  have hcontrols : ∀ entry ∈ Register.followed, entry.1 ∉ Register.statuses := by decide
  have hunique : ∀ entry ∈ Register.followed, ∀ other ∈ Register.followed,
      entry.2 = other.2 → entry.1 = other.1 := by decide
  by_cases hcontrol : r = control
  · exact hwritten hcontrol
  · have hkept : Kept (· = r) h h' := kept_effect rfl hrequest heffect
    have hkeptStatus : h'.value status = h.value status := by
      refine hkept.value status ?_
      rintro q rfl (hsame | hfollowed)
      · exact hr (hsame ▸ hstatus)
      · exact hcontrol (hunique _ hfollowed _ hpair rfl)
    rw [hkept.unwritten (hcontrols _ hpair) (Ne.symm hcontrol), hkeptStatus]
    exact hR

/-- The PLL locks as long as it is set running. -/
theorem locked_iff (v : UInt32) :
    (v &&& ~~~Clock.pllLock ||| if v &&& Clock.pllRun ≠ 0 then Clock.pllLock else 0) &&&
        Clock.pllLock ≠ 0 ↔
      (v &&& ~~~Clock.pllLock ||| if v &&& Clock.pllRun ≠ 0 then Clock.pllLock else 0) &&&
        Clock.pllRun ≠ 0 := by
  by_cases hrun : v &&& Clock.pllRun = 0
  · rw [if_neg (not_not.2 hrun), UInt32.or_zero, Word.clear_and,
      Word.clear_and_apart v (by decide), hrun]
  · rw [if_pos hrun, Word.set_and, Word.set_and_apart _ (by decide),
      Word.clear_and_apart v (by decide)]
    exact ⟨fun _ => hrun, fun _ => by decide⟩

theorem value_updateResetStat (h : Hardware) : h.updateResetStat.value Phy.resetStat =
    if ResetOver h.powered (h.value Reset.control) then Phy.coldResetDone else 0 := by
  rw [updateResetStat, value_store_self]
  refine if_congr ?_ rfl rfl
  simp [ResetOver, and_assoc]

theorem value_updateResetStat_of_ne {q : Register} (hq : q ≠ Phy.resetStat) (h : Hardware) :
    h.updateResetStat.value q = h.value q :=
  value_store_of_ne hq _ _

theorem eq_of_writeReset (hwrite : h.writeReset v = .ok h') :
    h' = (h.store Reset.control v).updateResetStat := by
  unfold writeReset at hwrite
  dsimp only at hwrite
  repeat' split at hwrite
  · cases hwrite
  · cases hwrite
  · cases hwrite
    rfl

/-- A word does not ask the PHY to initialise exactly if the bit for it is clear. -/
theorem asksInit_eq_false_iff : asksInit v = false ↔ v &&& Ddrc.dfiInitStart = 0 := by
  have hbit := @Word.and_eq_self_iff v Ddrc.dfiInitStart 5 rfl
  rw [asksInit, beq_eq_false_iff_ne, Ne, hbit, not_not]

/-- The PHY is not initialised as long as it is asked to be: completion is gone once it is asked,
and only comes back once it no longer is. -/
theorem asksInit_eq_false_of_complete {before after status : UInt32}
    (hbefore : status &&& Ddrc.dfiComplete ≠ 0 → asksInit before = false)
    (hcomplete : statusAfter before after status &&& Ddrc.dfiComplete ≠ 0) :
    asksInit after = false := by
  cases hafter : asksInit after with
  | false => rfl
  | true =>
      cases hasked : asksInit before with
      | false =>
          have hdropped : statusAfter before after status = 0 := by
            rw [statusAfter, hasked, hafter]
            rfl
          rw [hdropped, UInt32.zero_and] at hcomplete
          exact absurd rfl hcomplete
      | true =>
          have hstays : statusAfter before after status = status := by
            rw [statusAfter, hasked, hafter]
            rfl
          rw [hstays] at hcomplete
          exact hasked.symm.trans (hbefore hcomplete)

/-! ### Writes that leave the power alone -/

/-- The statuses in the power domain go on reporting after a write. -/
theorem Reports.effect (hreports : h.Reports) (hrequest : r ∉ Register.requests)
    (hr : r ∉ Register.indicators) (heffect : h.effect r v = .ok h') : h'.Reports where
  mode := by
    refine related_of_effect Ddrc.pwrctl Ddrc.stat
      (fun control status => status =
        if control &&& Ddrc.selfRefreshForced = 0 then Ddrc.modeNormal else forcedSelfRefresh)
      (by decide) (by decide) hrequest hr heffect ?_ hreports.mode
    rintro rfl
    cases (effect_pwrctl h v).symm.trans heffect
    have hbit := @Word.and_eq_self_iff v Ddrc.selfRefreshForced 5 rfl
    rw [value_store_self, value_store_of_ne (by decide), value_store_self]
    simp only [beq_iff_eq, hbit, ne_eq, ite_not]
  closed := by
    refine related_of_effect Ddrc.swctl Ddrc.swstat
      (fun control status => status &&& Ddrc.swDoneAck = control &&& Ddrc.swDone)
      (by decide) (by decide) hrequest hr heffect ?_ hreports.closed
    rintro rfl
    cases (effect_swctl h v).symm.trans heffect
    rw [value_store_self, value_store_of_ne (by decide), value_store_self, UInt32.and_assoc]
    rfl
  held := by
    refine related_of_effect Phy.lpCtrl Phy.lpStat
      (fun control status => status &&& Phy.holdActive = control &&& Phy.holdRequest)
      (by decide) (by decide) hrequest hr heffect ?_ hreports.held
    rintro rfl
    cases (effect_lpCtrl h v).symm.trans heffect
    rw [value_store_self, value_store_of_ne (by decide), value_store_self, UInt32.and_assoc]
    rfl
  complete := by
    refine related_of_effect Ddrc.dfimisc Ddrc.dfistat
      (fun control status => status &&& Ddrc.dfiComplete ≠ 0 →
        control &&& Ddrc.dfiInitStart = 0)
      (by decide) (by decide) hrequest hr heffect ?_ hreports.complete
    rintro rfl
    cases (effect_dfimisc h v).symm.trans heffect
    obtain ⟨hcontrol, hstatus⟩ := value_writeDfimisc h v
    rw [hcontrol, hstatus, ← asksInit_eq_false_iff]
    exact asksInit_eq_false_of_complete fun hcomplete =>
      asksInit_eq_false_iff.2 (hreports.complete hcomplete)

/-- The status of the PHY's reset goes on following the reset control. -/
theorem Consistent.reset_of_effect (hconsistent : h.Consistent) (hrequest : r ∉ Register.requests)
    (hr : r ∉ Register.indicators) (heffect : h.effect r v = .ok h') :
    h'.value Phy.resetStat =
      if ResetOver h'.powered (h'.value Reset.control) then Phy.coldResetDone else 0 := by
  have hkept : Kept (· = r) h h' := kept_effect rfl hrequest heffect
  rw [hkept.powered]
  refine related_of_effect Reset.control Phy.resetStat
    (fun control status => status = if ResetOver h.powered control then Phy.coldResetDone else 0)
    (by decide) (by decide) hrequest hr heffect ?_ hconsistent.reset
  rintro rfl
  cases eq_of_writeReset heffect
  rw [value_updateResetStat, value_updateResetStat_of_ne (by decide)]
  rfl

/-- Without power only a write from outside gets through, and none but the reset control reaches
into the power domain. -/
theorem Consistent.lost_of_effect {q : Register} (hconsistent : h.Consistent)
    (hrequest : r ∉ Register.requests) (hpowered : r.window.inDramDomain = true → h.powered = true)
    (heffect : h.effect r v = .ok h') (hoff : h.powered = false)
    (hq : q.window.inDramDomain = true) (hstatus : q ≠ Phy.resetStat) : h'.value q = 0 := by
  have hinside : ∀ entry ∈ Register.followed, entry.2.window.inDramDomain = true →
      entry.2 ≠ Phy.resetStat → entry.1.window.inDramDomain = true := by decide
  have houtside : r.window.inDramDomain ≠ true := fun hdomain => by
    rw [hpowered hdomain] at hoff
    cases hoff
  have hkept : Kept (· = r) h h' := kept_effect rfl hrequest heffect
  rw [hkept.value q ?_]
  · exact hconsistent.lost hoff q hq
  · rintro s rfl (hsame | hfollowed)
    · exact houtside (hsame ▸ hq)
    · exact houtside (hinside _ hfollowed hq hstatus)

/-- **A write leaves every status in agreement**, if it does not ask for the power to be
switched. -/
theorem Consistent.effect (hconsistent : h.Consistent) (hrequest : r ∉ Register.requests)
    (hr : r ∉ Register.indicators) (hpowered : r.window.inDramDomain = true → h.powered = true)
    (heffect : h.effect r v = .ok h') : h'.Consistent := by
  have hkept : Kept (· = r) h h' := kept_effect rfl hrequest heffect
  have hreset := hconsistent.reset_of_effect hrequest hr heffect
  refine ⟨?_, ?_, hreset, fun hon => ?_, fun hoff q hq => ?_⟩
  · by_cases hpll : r = Clock.pllControl
    · subst hpll
      cases (effect_pllControl h v).symm.trans heffect
      rw [value_store_self]
      exact locked_iff v
    · rw [hkept.unwritten (by decide) (Ne.symm hpll)]
      exact hconsistent.locked
  · refine related_of_effect FastSwitch.ctrl FastSwitch.stat
      (fun control status => status =
        if control &&& FastSwitch.stopRequest ≠ 0 then FastSwitch.stopped else 0)
      (by decide) (by decide) hrequest hr heffect ?_ hconsistent.stopped
    rintro rfl
    cases (effect_speedControl h v).symm.trans heffect
    rw [value_store_self, value_store_of_ne (by decide), value_store_self]
  · exact (hconsistent.reports (hkept.powered.symm.trans hon)).effect hrequest hr heffect
  · by_cases hstatus : q = Phy.resetStat
    · subst hstatus
      rw [hreset, hoff]
      exact if_neg fun hover => Bool.false_ne_true hover.1
    · exact hconsistent.lost_of_effect hrequest hpowered heffect
        (hkept.powered.symm.trans hoff) hq hstatus

/-! ### Writes that ask for the power to be switched -/

theorem Consistent.powerOff (hconsistent : h.Consistent) : h.powerOff.Consistent where
  locked := by
    rw [value_powerOff]
    exact hconsistent.locked
  stopped := by
    rw [value_powerOff, value_powerOff]
    exact hconsistent.stopped
  reset := by
    rw [value_powerOff]
    exact (if_neg fun hover => Bool.false_ne_true hover.1).symm
  reports hon := nomatch hon
  lost _ q hq := by rw [value_powerOff, if_pos hq]

/-- The registers in the power domain that the power coming on gives a value. -/
def woken : List Register :=
  [Ddrc.stat, Ddrc.pwrctl, Ddrc.dbgcam, Ddrc.swctl, Ddrc.swstat, Phy.busOwner, Phy.resetStat]

theorem value_powerOn_of_not_woken {q : Register} (hdomain : q.window.inDramDomain = true)
    (hq : q ∉ woken) (h : Hardware) : (h.powerOn true).value q = 0 := by
  simp only [woken, List.mem_cons, List.not_mem_nil, or_false, not_or] at hq
  simp only [Hardware.powerOn, wakeRetained, updateResetStat, value_store, if_true, hq, if_false]
  exact (value_dropDomain h q).trans (if_pos hdomain)

/-- The power comes on with the DRAM in self-refresh, and with nothing asked of the PHY. -/
theorem reports_powerOn (h : Hardware) : (h.powerOn true).Reports where
  mode := by simp +decide [Hardware.powerOn, wakeRetained, updateResetStat, value_store]
  closed := by simp +decide [Hardware.powerOn, wakeRetained, updateResetStat, value_store]
  held := by
    rw [value_powerOn_of_not_woken rfl (by decide), value_powerOn_of_not_woken rfl (by decide)]
    rfl
  complete _ := by
    rw [value_powerOn_of_not_woken rfl (by decide)]
    rfl

theorem Consistent.powerOn (hconsistent : h.Consistent) : (h.powerOn true).Consistent where
  locked := by
    rw [value_powerOn h rfl]
    exact hconsistent.locked
  stopped := by
    rw [value_powerOn h rfl, value_powerOn h rfl]
    exact hconsistent.stopped
  reset := by
    unfold Hardware.powerOn
    rw [value_updateResetStat, value_updateResetStat_of_ne (by decide)]
    rfl
  reports _ := reports_powerOn h
  lost hoff := nomatch hoff

theorem Consistent.store_request (hconsistent : h.Consistent) (hr : r ∈ Register.requests)
    (v : UInt32) : (h.store r v).Consistent := by
  refine hconsistent.of_values (fun q hq => value_store_of_ne ?_ h v) rfl
  rintro rfl
  exact hq hr

theorem Consistent.requestDown (hconsistent : h.Consistent)
    (hrequest : h.requestDown v = .ok h') : h'.Consistent := by
  unfold Hardware.requestDown at hrequest
  repeat' split at hrequest
  · cases hrequest
    exact hconsistent.store_request (by decide) 0
  · cases hrequest
  · cases hrequest
    exact hconsistent.powerOff.store_request (by decide) 0

theorem Consistent.requestUp (hconsistent : h.Consistent) (v : UInt32) :
    (h.requestUp v).Consistent := by
  unfold Hardware.requestUp
  split
  · exact hconsistent.store_request (by decide) 0
  · exact hconsistent.powerOn.store_request (by decide) 0

/-! ### All accesses -/

theorem Consistent.write (hconsistent : h.Consistent) (hr : r ∉ Register.indicators)
    (hwrite : write r v h = .ok h') : h'.Consistent := by
  have hrecorded : ({ h with writes := h.writes.push (r, v) } : Hardware).Consistent :=
    hconsistent.of_values (fun _ _ => rfl) rfl
  unfold Hardware.write at hwrite
  dsimp only at hwrite
  repeat' split at hwrite
  · cases hwrite
  · cases hwrite
  · rename_i hpower _
    have hpowered : r.window.inDramDomain = true → h.powered = true := by
      intro hdomain
      simpa [hdomain] using hpower
    by_cases hrequest : r ∈ Register.requests
    · simp only [Register.requests, List.mem_cons, List.not_mem_nil, or_false] at hrequest
      rcases hrequest with rfl | rfl
      · exact hrecorded.requestDown hwrite
      · cases (effect_upRequest _ v).symm.trans hwrite
        exact hrecorded.requestUp v
    · exact hrecorded.effect hrequest hr hpowered hwrite

theorem Consistent.read (hconsistent : h.Consistent) (hread : read r h = .ok (v, h')) :
    h'.Consistent := by
  have hkept : Kept (fun _ => False) h h' := kept_read hread
  exact hconsistent.of_values (fun q _ => hkept.value q fun _ => False.elim) hkept.powered

theorem Driven.consistent (hdriven : h.Driven) : h.Consistent := by
  induction hdriven with
  | booted => exact consistent_booted
  | read _ hread ih => exact ih.read hread
  | write _ hr hwrite ih => exact ih.write hr hwrite

theorem Driven.unpinned (hdriven : h.Driven) : h.Unpinned := by
  induction hdriven with
  | booted => exact fun _ => rfl
  | @read h h' r v _ hread ih =>
      have hanswer : RegisterFile.answer (.read r) h = .ok v h' := by
        simp only [RegisterFile.answer, RegisterFile.read, hread]
      intro q
      rw [(outlasts_answer hanswer).1]
      exact ih q
  | @write h h' r v _ _ hwrite ih =>
      have hanswer : RegisterFile.answer (.write r v) h = .ok () h' := by
        simp only [RegisterFile.answer, RegisterFile.write, hwrite]
      intro q
      rw [(outlasts_answer hanswer).1]
      exact ih q

/-- Registers without power read as zero, whether or not software owned the PHY's bus. -/
theorem Consistent.read_eq_zero (hconsistent : h.Consistent) (hunpinned : h.Unpinned)
    (hoff : h.powered = false) (hr : r.window.inDramDomain = true) :
    Hardware.read r h = .ok (0, h) := by
  have hfree : h.busDenied r = false :=
    Reaches.free (.inr (hconsistent.lost hoff Phy.busOwner rfl))
  simp [Hardware.read, hunpinned r, hfree, hr, hoff]

/-- **Statuses follow their controls** in whatever reads and writes come after booting, through any
number of times that the power goes and comes back.  While it is gone, every register of the
controller and of the PHY holds zero, and reads as that. -/
theorem statuses_follow (hdriven : h.Driven) :
    h.Consistent ∧ (h.powered = false → ∀ r : Register, r.window.inDramDomain = true →
      Hardware.read r h = .ok (0, h)) :=
  ⟨hdriven.consistent, fun hoff _ hr =>
    hdriven.consistent.read_eq_zero hdriven.unpinned hoff hr⟩

/-- The DRAM is put in self-refresh and initialisation asked for, the clocks are gated and the power
goes. -/
theorem statuses_follow_unpowered : ∃ h, Driven h ∧ h.powered = false ∧ h.Consistent ∧
    Hardware.read Ddrc.pwrctl h = .ok (0, h) := by
  have hdriven := (((Driven.booted.write (r := Ddrc.pwrctl) (v := 0x20) (by decide) rfl).write
    (r := Ddrc.dfimisc) (v := 0x21) (by decide) rfl).write (r := Clock.dramGate) (v := 0)
      (by decide) rfl).write (r := Power.downRequest) (v := 0x20) (by decide) rfl
  obtain ⟨hconsistent, hreads⟩ := statuses_follow hdriven
  exact ⟨_, hdriven, rfl, hconsistent, hreads rfl _ rfl⟩

end Hardware

end Reclock
