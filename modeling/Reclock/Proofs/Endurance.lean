/-
**Sequences that trip no interlock.**

The modelled hardware halts a run that does what real hardware would not survive: a write to a
register without power, an access to the PHY while the PHY owns its bus, a mode register write while
another is under way, power removed under running clocks, power-ok changed at the wrong time.  Reads
may be pinned to anything, so that any poll may run out and nothing that is read can be relied on;
still no sequence gets there, since power and bus are there whenever it writes, and the few
registers that are guarded are written only when their guards hold.

Main definitions:

* `Reclock.Procedure.Endures` — wherever an invariant holds, the run comes to an end, and the
  invariant holds again;
* `Reclock.Hardware.Supplied`, `Safe` — hardware with power and with the given pins, and sequences
  that keep it so;
* `Reclock.PointTimings.Spares` — programs that leave the two interlocks alone.

Main results:

* `Reclock.Hardware.safe_switchPoint`, `safe_switchSpeed`, `safe_quietDown` — sequences on hardware
  with power;
* `Reclock.Hardware.returns_powerOff`, `returns_powerUp` — the sequences that take the power away
  and bring it back.
-/

import Reclock.Proofs.PowerCycle

set_option relaxedAutoImplicit false
set_option autoImplicit false

namespace Reclock

/-! ### Invariants that are endured -/

namespace Procedure

variable {A : Type} {Reply : A → Type} {σ ε α β : Type} {J : σ → Prop}
variable {world : (a : A) → σ → EStateM.Result Halt σ (Reply a)}
variable {p : Procedure Reply ε α} {f : α → Procedure Reply ε β} {s : σ}

/-- **The run comes to an end from wherever the invariant holds**, and the invariant holds there
again. -/
def Endures (world : (a : A) → σ → EStateM.Result Halt σ (Reply a)) (J : σ → Prop)
    (p : Procedure Reply ε α) : Prop :=
  ∀ s, J s → p.Returns world s fun _ s' => J s'

theorem endures_done (a : α) : (done a : Procedure Reply ε α).Endures world J :=
  fun _ hs => returns_of_run rfl hs

theorem endures_bind (hp : p.Endures world J) (hf : ∀ a, (f a).Endures world J) :
    (p >>= f).Endures world J :=
  fun s hs => (hp s hs).andThen (fun a s₁ h₁ => hf a s₁ h₁) fun _ _ h₁ => h₁

theorem endures_forEach {bs : List β} {f : β → Procedure Reply ε Unit}
    (hf : ∀ b ∈ bs, (f b).Endures world J) : (forEach bs f).Endures world J := by
  induction bs with
  | nil => exact endures_done ()
  | cons b bs ih =>
      exact endures_bind (hf b (List.mem_cons_self ..)) fun _ =>
        ih fun b hb => hf b (List.mem_cons_of_mem _ hb)

theorem endures_collect {bs : List β} {f : β → Procedure Reply ε α}
    (hf : ∀ b ∈ bs, (f b).Endures world J) : (collect bs f).Endures world J := by
  induction bs with
  | nil => exact endures_done []
  | cons b bs ih =>
      refine endures_bind (hf b (List.mem_cons_self ..)) fun _ => endures_bind ?_ fun _ =>
        endures_done _
      exact ih fun b hb => hf b (List.mem_cons_of_mem _ hb)

/-- What holds after an attempt that yields a value holds after the repeated attempts, if one of
them does. -/
theorem returns_pollUntil {e : ε} {attempt : Procedure Reply ε (Option α)} {P : σ → Prop}
    (hattempt : ∀ s, J s → attempt.Returns world s fun r s' =>
      J s' ∧ ∀ a, r = .ok (some a) → P s') (limit : Nat) (hs : J s) :
    (pollUntil e attempt limit).Returns world s fun r s' => J s' ∧ ∀ a, r = .ok a → P s' := by
  induction limit generalizing s with
  | zero => exact returns_of_run rfl ⟨hs, nofun⟩
  | succ limit ih =>
      refine (hattempt s hs).andThen (fun found s₁ h₁ => ?_) fun _ _ h₁ => ⟨h₁.1, nofun⟩
      cases found with
      | some a => exact returns_of_run rfl ⟨h₁.1, fun _ _ => h₁.2 a rfl⟩
      | none => exact ih h₁.1

end Procedure

/-! ### Programs and interlocks -/

/-- **The programs of a point leave the interlocks alone**: who owns the PHY's bus, and what starts
a mode register write. -/
structure PointTimings.Spares (t : PointTimings) : Prop where
  control : Ddrc.mrctrl0 ∉ t.controller.registers .ddrc
  owner : Phy.busOwner ∉ RegisterProgram.registers .phy (t.phyInit ++ t.phyTrained ++ t.phyEngine)

instance (t : PointTimings) : Decidable t.Spares :=
  decidable_of_iff (Ddrc.mrctrl0 ∉ t.controller.registers .ddrc ∧
      Phy.busOwner ∉ RegisterProgram.registers .phy (t.phyInit ++ t.phyTrained ++ t.phyEngine))
    ⟨fun h => ⟨h.1, h.2⟩, fun h => ⟨h.control, h.owner⟩⟩

/-- Whatever trained values are restored, the bus is spared. -/
theorem PointTimings.Spares.not_mem_restored {t : PointTimings} (h : t.Spares)
    (trained : Option (List UInt32)) :
    Phy.busOwner ∉ (Sequences.restored t trained).registers .phy := by
  have howner := h.owner
  simp only [Sequences.restored, RegisterProgram.registers_append, List.mem_append, not_or]
    at howner ⊢
  exact ⟨⟨howner.1.1, fun hmem => howner.1.2 (Sequences.mem_registers_of_trainedProgram hmem)⟩,
    howner.2⟩

/-- The registers whose writes the hardware may refuse. -/
def Register.guarded : List Register :=
  [Ddrc.mrctrl0, Power.downRequest, Power.upRequest, Reset.control]

namespace Hardware

open Procedure Sequences

variable {ε α : Type} {h : Hardware} {r : Register} {pins : RegisterMap} {config : Config}

/-! ### Single accesses -/

/-- **Hardware that has power**, and the given pins. -/
structure Supplied (pins : RegisterMap) (h : Hardware) : Prop where
  powered : h.powered = true
  pins : h.pins = pins

/-- Hardware that has power, with software owning the PHY's bus. -/
structure Owned (pins : RegisterMap) (h : Hardware) : Prop extends Supplied pins h where
  owner : h.value Phy.busOwner = Phy.ownedBySoftware

theorem Kept.supplied {set : Register → Prop} {h' : Hardware} (hkept : Kept set h h')
    (hsupplied : h.Supplied pins) : h'.Supplied pins :=
  ⟨hkept.powered.trans hsupplied.powered, hkept.pins.trans hsupplied.pins⟩

/-- A write to a register without a guard is not refused. -/
theorem exists_effect (hr : r ∉ Register.guarded) (h : Hardware) (v : UInt32) :
    ∃ h', h.effect r v = .ok h' := by
  by_cases hreactive : r ∈ Register.reactive
  case neg => exact ⟨_, effect_of_not_reactive hreactive h v⟩
  simp only [Register.reactive, List.mem_cons, List.not_mem_nil, or_false] at hreactive
  rcases hreactive with rfl | rfl | rfl | rfl | rfl | rfl | rfl | rfl | rfl | rfl | rfl | rfl
  · exact absurd (by decide) hr
  · exact ⟨_, effect_pwrctl h v⟩
  · exact ⟨_, effect_dfimisc h v⟩
  · exact ⟨_, effect_swctl h v⟩
  · exact ⟨_, effect_dbgcmd h v⟩
  · exact ⟨_, effect_lpCtrl h v⟩
  · exact ⟨_, effect_pllControl h v⟩
  · exact ⟨_, effect_bypassDivider h v⟩
  · exact absurd (by decide) hr
  · exact absurd (by decide) hr
  · exact absurd (by decide) hr
  · exact ⟨_, effect_speedControl h v⟩

/-- A read over a free bus is answered, and counts at most as one of those that a mode register
write takes. -/
theorem completes_read (hfree : h.busDenied r = false) :
    (Sequence.read r : Sequence ε UInt32).Completes RegisterFile.answer h fun _ h' =>
      ∃ busyReads, h' = { h with busyReads } := by
  have hread : ∃ v busyReads, RegisterFile.answer (.read r) h = .ok v { h with busyReads } := by
    cases hpin : h.pins.find? r with
    | some v => exact ⟨v, h.busyReads, by simp [RegisterFile.answer, RegisterFile.read, read, hpin]⟩
    | none =>
        by_cases hpowered : (r.window.inDramDomain && !h.powered) = true
        · refine ⟨0, h.busyReads, ?_⟩
          simp [RegisterFile.answer, RegisterFile.read, read, hpin, hfree, hpowered]
        have hopen : h.Open r := ⟨hpin, hfree, Bool.eq_false_iff.2 hpowered⟩
        by_cases hr : r = Ddrc.mrstat
        · subst hr
          cases hreads : h.busyReads with
          | zero => exact ⟨_, h.busyReads, hopen.answer_modeStatus_idle hreads⟩
          | succ n => exact ⟨_, n, hopen.answer_modeStatus_busy hreads⟩
        · exact ⟨_, _, answer_read hopen hr⟩
  obtain ⟨v, busyReads, hread⟩ := hread
  refine completes_of_run (a := v) ?_ ⟨busyReads, rfl⟩
  simp only [Sequence.read, run, hread]

/-- A write over a free bus is carried out, if the register has power and no guard. -/
theorem Supplied.completes_write (hsupplied : h.Supplied pins) (hfree : h.busDenied r = false)
    (hr : r ∉ Register.guarded) (v : UInt32) :
    (Sequence.write r v : Sequence ε Unit).Completes RegisterFile.answer h fun _ h' =>
      Kept (· = r) h h' := by
  refine Hardware.completes_write hfree (by simp [hsupplied.powered]) fun writes => ?_
  obtain ⟨h', heffect⟩ := exists_effect hr { h with writes } v
  have hrecorded : Kept (· = r) h { h with writes } :=
    ⟨fun _ _ => rfl, rfl, rfl, id, fun _ => rfl⟩
  have hrequest : r ∉ Register.requests := by
    intro hmem
    have hall : ∀ q ∈ Register.requests, q ∈ Register.guarded := by decide
    exact hr (hall r hmem)
  exact ⟨h', heffect, hrecorded.trans (kept_effect rfl hrequest heffect)⟩

/-! ### Sequences on hardware with power -/

/-- **A sequence trips no interlock** of hardware that has power. -/
abbrev Safe (pins : RegisterMap) (p : Sequence ε α) : Prop :=
  p.Endures RegisterFile.answer (Supplied pins)

theorem safe_read (hr : r.Direct) : Safe pins (Sequence.read r : Sequence ε UInt32) := by
  intro h hsupplied
  refine (completes_read (Reaches.free (.inl hr))).returns.mono fun _ h' hend => ?_
  obtain ⟨-, -, busyReads, rfl⟩ := hend
  exact ⟨hsupplied.powered, hsupplied.pins⟩

theorem safe_write (hr : r.Direct) (hguard : r ∉ Register.guarded) (v : UInt32) :
    Safe pins (Sequence.write r v : Sequence ε Unit) := fun _ hsupplied =>
  (hsupplied.completes_write (Reaches.free (.inl hr)) hguard v).returns.mono
    fun _ _ ⟨_, _, hkept⟩ => hkept.supplied hsupplied

theorem safe_modify (hr : r.Direct) (hguard : r ∉ Register.guarded) (f : UInt32 → UInt32) :
    Safe pins (Sequence.modify r f : Sequence ε Unit) :=
  endures_bind (safe_read hr) fun _ => safe_write hr hguard _

/-- What holds after a read with the value that is waited for holds after the wait. -/
theorem returns_wait {condition : UInt32 → Bool} {J P : Hardware → Prop}
    (hread : ∀ h, J h → (Sequence.read r : Timed UInt32).Returns RegisterFile.answer h
      fun result h' => J h' ∧ ∀ v, result = .ok v → condition v = true → P h') (hJ : J h) :
    (wait config r condition).Returns RegisterFile.answer h fun result h' =>
      J h' ∧ (result = .ok () → P h') := by
  have hattempt : ∀ h, J h → (do
      let value ← Sequence.read r
      return if condition value then some value else none : Timed (Option UInt32)).Returns
        RegisterFile.answer h fun result h' => J h' ∧ ∀ v, result = .ok (some v) → P h' := by
    intro h hJ
    refine (hread h hJ).andThen (fun v h₁ h₁' => ?_) fun _ _ h₁ => ⟨h₁.1, nofun⟩
    refine returns_of_run rfl ⟨h₁'.1, fun w hw => h₁'.2 v rfl ?_⟩
    by_contra hcondition
    rw [if_neg hcondition] at hw
    cases hw
  refine (returns_pollUntil hattempt _ hJ).andThen (fun v h₁ h₁' => ?_)
    fun _ _ h₁ => ⟨h₁.1, nofun⟩
  exact returns_of_run rfl ⟨h₁'.1, fun _ => h₁'.2 v rfl⟩

theorem endures_wait {J : Hardware → Prop}
    (hread : (Sequence.read r : Timed UInt32).Endures RegisterFile.answer J)
    (condition : UInt32 → Bool) : (wait config r condition).Endures RegisterFile.answer J :=
  fun _ hJ => (returns_wait (P := fun _ => True) (fun h hJ => (hread h hJ).mono
    fun _ _ hend => ⟨hend, fun _ _ _ => trivial⟩) hJ).mono fun _ _ hend => hend.1

theorem safe_wait (hr : r.Direct) (condition : UInt32 → Bool) :
    Safe pins (wait config r condition) :=
  endures_wait (safe_read hr) condition

/-! ### Brackets -/

theorem safe_quasiDynamic {body : Timed Unit} (hbody : Safe pins body) :
    Safe pins (quasiDynamic config body) :=
  endures_bind (safe_modify (by decide) (by decide) _) fun _ => endures_bind hbody fun _ =>
    endures_bind (safe_modify (by decide) (by decide) _) fun _ => safe_wait (by decide) _

/-- While software owns the bus, whatever keeps that can be accessed. -/
theorem safe_withBus {body : Timed α} (hbody : body.Endures RegisterFile.answer (Owned pins)) :
    Safe pins (withBus body) := by
  intro h hsupplied
  have hfree : h.busDenied Phy.busOwner = false := Reaches.free (.inl (by decide))
  refine Completes.andReturns (Hardware.completes_write (P := Owned pins) hfree
    (by simp [hsupplied.powered]) fun writes => ?_) fun _ h₁ howned => ?_
  · exact ⟨_, effect_of_not_reactive (by decide) _ _, ⟨hsupplied.powered, hsupplied.pins⟩,
      value_store_self ..⟩
  · refine (hbody h₁ howned).andThen (fun result h₂ h₂' => ?_) fun _ _ h₂ => h₂.toSupplied
    exact endures_bind (safe_write (by decide) (by decide) _) (fun _ => endures_done _) h₂
      h₂'.toSupplied

/-- Software reads the PHY's registers. -/
theorem owned_read : (Sequence.read r : Sequence ε UInt32).Endures RegisterFile.answer
    (Owned pins) := by
  intro h howned
  refine (completes_read (Reaches.free (.inr howned.owner))).returns.mono fun _ h' hend => ?_
  obtain ⟨-, -, busyReads, rfl⟩ := hend
  exact ⟨⟨howned.powered, howned.pins⟩, howned.owner⟩

/-- Software writes a program to the PHY, if that does not give the bus away. -/
theorem owned_applyProgram {program : RegisterProgram}
    (hspares : Phy.busOwner ∉ program.registers .phy) :
    (Sequence.applyProgram .phy program : Timed Unit).Endures RegisterFile.answer (Owned pins) := by
  refine endures_forEach fun entry hentry h howned => ?_
  have hmem : (⟨.phy, entry.offset⟩ : Register) ∈ program.registers .phy :=
    List.mem_map_of_mem hentry
  have hguard : (⟨.phy, entry.offset⟩ : Register) ∉ Register.guarded := by
    intro hguarded
    have hall : ∀ q ∈ Register.guarded, q.window ≠ .phy := by decide
    exact hall _ hguarded rfl
  refine (howned.completes_write (Reaches.free (.inr howned.owner)) hguard _).returns.mono ?_
  rintro _ h' ⟨-, -, hkept⟩
  refine ⟨hkept.supplied howned.toSupplied, ?_⟩
  rw [hkept.unwritten (by decide) fun heq : Phy.busOwner = _ => hspares (heq ▸ hmem)]
  exact howned.owner

/-! ### The parts of a switch -/

theorem direct_pctrl (port : UInt8) : (Ddrc.pctrl port).Direct := (control_pctrl port).1

theorem pctrl_not_guarded (port : UInt8) : Ddrc.pctrl port ∉ Register.guarded :=
  pctrl_not_mem (by decide) port

theorem safe_disablePorts : Safe pins (disablePorts config) :=
  endures_bind (endures_forEach fun port _ =>
    safe_modify (direct_pctrl port) (pctrl_not_guarded port) _) fun _ => safe_wait (by decide) _

theorem safe_enablePorts : Safe pins (enablePorts config) :=
  endures_forEach fun port _ => safe_modify (direct_pctrl port) (pctrl_not_guarded port) _

theorem safe_enterSelfRefresh : Safe pins (enterSelfRefresh config) := by
  refine endures_bind (safe_quasiDynamic ?_) fun _ =>
    endures_bind (safe_modify (by decide) (by decide) _) fun _ => safe_wait (by decide) _
  exact endures_bind (safe_modify (by decide) (by decide) _) fun _ =>
    safe_modify (by decide) (by decide) _

theorem safe_exitSelfRefresh : Safe pins (exitSelfRefresh config) := by
  refine endures_bind (safe_quasiDynamic ?_) fun _ =>
    endures_bind (safe_modify (by decide) (by decide) _) fun _ => safe_wait (by decide) _
  exact endures_bind (safe_modify (by decide) (by decide) _) fun _ =>
    safe_modify (by decide) (by decide) _

theorem safe_halt : Safe pins (halt config) :=
  endures_bind (safe_modify (by decide) (by decide) _) fun _ => safe_wait (by decide) _

theorem safe_resume : Safe pins resume := safe_modify (by decide) (by decide) _

theorem safe_calibrateUnless (bypassed : Bool) : Safe pins (calibrateUnless config bypassed) := by
  cases bypassed with
  | true => exact endures_done ()
  | false =>
      exact endures_bind (safe_wait (by decide) _) fun _ =>
        endures_bind (safe_modify (by decide) (by decide) _) fun _ => safe_wait (by decide) _

theorem safe_selectFrequency (index : FrequencyIndex) : Safe pins (selectFrequency config index) :=
  safe_quasiDynamic (endures_bind (safe_modify (by decide) (by decide) _) fun _ =>
    safe_modify (by decide) (by decide) _)

theorem safe_switchClock (point : FrequencyPoint) : Safe pins (switchClock config point) := by
  unfold switchClock
  split
  · exact endures_bind (safe_modify (by decide) (by decide) _) fun _ =>
      endures_bind (safe_wait (by decide) _) fun _ => safe_modify (by decide) (by decide) _
  · exact endures_bind (safe_modify (by decide) (by decide) _) fun _ =>
      endures_bind (safe_write (by decide) (by decide) _) fun _ =>
        endures_bind (safe_modify (by decide) (by decide) _) fun _ =>
          endures_bind (safe_wait (by decide) _) fun _ => safe_modify (by decide) (by decide) _

theorem safe_dfiInit : Safe pins (dfiInit config) := by
  have hmodify : ∀ f, Safe pins (Sequence.modify Ddrc.dfimisc f : Timed Unit) :=
    safe_modify (by decide) (by decide)
  refine safe_quasiDynamic (endures_bind (hmodify _) fun _ => endures_bind (hmodify _) fun _ => ?_)
  exact endures_bind (safe_wait (by decide) _) fun _ => endures_bind (hmodify _) fun _ =>
    endures_bind (safe_wait (by decide) _) fun _ => hmodify _

/-! ### Mode registers -/

/-- Once no mode register write is seen under way, none is: unless the read is pinned, it shows one
that is. -/
theorem returns_waitModeIdle (hmode : pins.find? Ddrc.mrstat = none) (hsupplied : h.Supplied pins) :
    (waitModeIdle config).Returns RegisterFile.answer h fun r h' =>
      h'.Supplied pins ∧ (r = .ok () → h'.busyReads = 0) := by
  refine returns_wait (fun h hsupplied => ?_) hsupplied
  have hopen : h.Open Ddrc.mrstat :=
    ⟨by rw [hsupplied.pins, hmode], Reaches.free (.inl (by decide)), by simp [hsupplied.powered]⟩
  cases hreads : h.busyReads with
  | zero =>
      have hread : (Sequence.read Ddrc.mrstat : Sequence PollTimeout UInt32).run RegisterFile.answer
          h = .ok (.ok (h.value Ddrc.mrstat)) h := by
        simp only [Sequence.read, run, hopen.answer_modeStatus_idle hreads]
      exact returns_of_run hread ⟨hsupplied, fun _ _ _ => hreads⟩
  | succ n =>
      have hread : (Sequence.read Ddrc.mrstat : Sequence PollTimeout UInt32).run RegisterFile.answer
          h = .ok (.ok (h.value Ddrc.mrstat ||| Ddrc.modeBusy)) { h with busyReads := n } := by
        simp only [Sequence.read, run, hopen.answer_modeStatus_busy hreads]
      refine returns_of_run hread ⟨⟨hsupplied.powered, hsupplied.pins⟩, fun v hv hidle => ?_⟩
      cases hv
      rw [allClear, Word.set_and] at hidle
      cases hidle

theorem safe_writeModeRegisters (hmode : pins.find? Ddrc.mrstat = none)
    (hranks : config.modeRanks.toNat < 256) (program : RegisterProgram) :
    Safe pins (writeModeRegisters config program) := by
  refine endures_bind (endures_forEach fun entry _ h hsupplied => ?_) fun _ h hsupplied =>
    (returns_waitModeIdle hmode hsupplied).mono fun _ _ hend => hend.1
  refine (returns_waitModeIdle hmode hsupplied).andThen (fun _ h₁ h₁' => ?_) fun _ _ h₁ => h₁.1
  obtain ⟨hsupplied₁, hidle₁⟩ := h₁'
  have hfree : ∀ (h : Hardware) {r : Register}, r.Direct → h.busDenied r = false :=
    fun _ _ hr => Reaches.free (.inl hr)
  -- The data and the control word are written first, neither of which starts anything.
  refine Completes.andReturns (Hardware.completes_write
    (P := fun h' => h'.Supplied pins ∧ h'.busyReads = 0) (hfree h₁ (by decide))
    (by simp [hsupplied₁.powered]) fun writes => ?_) fun _ h₂ h₂' => ?_
  · exact ⟨_, effect_of_not_reactive (by decide) _ _, ⟨hsupplied₁.powered, hsupplied₁.pins⟩,
      hidle₁ rfl⟩
  obtain ⟨hsupplied₂, hidle₂⟩ := h₂'
  refine Completes.andReturns (Hardware.completes_write
    (P := fun h' => h'.Supplied pins ∧ h'.busyReads = 0) (hfree h₂ (by decide))
    (by simp [hsupplied₂.powered]) fun writes => ?_) fun _ h₃ h₃' => ?_
  · exact ⟨_, effect_mrctrl0_of_idle _ (modeControl_idle hranks _),
      ⟨hsupplied₂.powered, hsupplied₂.pins⟩, hidle₂⟩
  obtain ⟨hsupplied₃, hidle₃⟩ := h₃'
  have hstart : (modeControl config entry.offset ||| Ddrc.modeWrite) &&& Ddrc.modeWrite ≠ 0 :=
    Word.set_and_ne_zero _ (by decide)
  refine (Hardware.completes_write (P := Supplied pins) (hfree h₃ (by decide))
    (by simp [hsupplied₃.powered]) fun writes => ?_).returns.mono fun _ _ ⟨_, _, hend⟩ => hend
  rw [effect_mrctrl0_of_start _ hstart]
  exact ⟨_, if_neg (not_not.2 hidle₃), hsupplied₃.powered, hsupplied₃.pins⟩

/-! ### Whole transitions -/

theorem safe_loadController {timings : PointTimings} (hspares : timings.Spares) :
    Safe pins (loadController config timings) := by
  refine safe_quasiDynamic (endures_forEach fun entry hentry => ?_)
  have hmem : (⟨.ddrc, entry.offset⟩ : Register) ∈ timings.controller.registers .ddrc :=
    List.mem_map_of_mem hentry
  have hdirect : (⟨.ddrc, entry.offset⟩ : Register).Direct := .inl nofun
  refine safe_write hdirect (fun hguarded => ?_) _
  have hall : ∀ q ∈ Register.guarded, q.window = .ddrc → q = Ddrc.mrctrl0 := by decide
  exact hspares.control (hall _ hguarded rfl ▸ hmem)

theorem safe_loadPrograms {timings : PointTimings} (hspares : timings.Spares) :
    Safe pins (loadPrograms config timings) := by
  have howner := hspares.owner
  simp only [RegisterProgram.registers_append, List.mem_append, not_or] at howner
  exact endures_bind (safe_loadController hspares) fun _ =>
    safe_withBus (endures_bind (owned_applyProgram howner.1.1) fun _ =>
      owned_applyProgram howner.1.2)

/-- The end of a switch, and of the way up. -/
theorem safe_conclude (bypassed : Bool) : Safe pins (conclude config bypassed) :=
  endures_bind safe_dfiInit fun _ => endures_bind (safe_calibrateUnless _) fun _ =>
    endures_bind safe_exitSelfRefresh fun _ => endures_bind safe_resume fun _ => safe_enablePorts

/-- **A switch trips no interlock**, whatever the reads of it are pinned to. -/
theorem safe_switchPoint (hmode : pins.find? Ddrc.mrstat = none)
    (hranks : config.modeRanks.toNat < 256) {timings : PointTimings} (hspares : timings.Spares)
    (leavingBypass : Bool) (point : FrequencyPoint) :
    Safe pins (switchPoint config leavingBypass point timings) := by
  rw [switchPoint_eq]
  refine endures_bind safe_disablePorts fun _ => ?_
  refine endures_bind safe_enterSelfRefresh fun _ => ?_
  refine endures_bind (safe_writeModeRegisters hmode hranks _) fun _ => ?_
  refine endures_bind safe_halt fun _ => ?_
  refine endures_bind (safe_selectFrequency _) fun _ => ?_
  refine endures_bind (safe_loadPrograms hspares) fun _ => ?_
  exact endures_bind (safe_switchClock _) fun _ => safe_conclude _

/-- **So does the handshake with the hardware sequencer.** -/
theorem safe_switchSpeed (speed : Speed) : Safe pins (switchSpeed config speed) := by
  have hmodify : ∀ f, Safe pins (Sequence.modify FastSwitch.ctrl f : Timed Unit) :=
    safe_modify (by decide) (by decide)
  have hselect : Safe pins (selectSpeed speed) := by
    cases speed with
    | full => exact hmodify _
    | half => exact hmodify _
  refine endures_bind (safe_wait (by decide) _) fun _ => endures_bind hselect fun _ => ?_
  exact endures_bind (hmodify _) fun _ => endures_bind (safe_wait (by decide) _) fun _ =>
    endures_bind (hmodify _) fun _ => safe_wait (by decide) _

theorem safe_quietDown : Safe pins (quietDown config) :=
  endures_bind safe_disablePorts fun _ => endures_bind safe_enterSelfRefresh fun _ =>
    endures_bind safe_halt fun _ => endures_bind (safe_modify (by decide) (by decide) _) fun _ =>
      safe_wait (by decide) _

theorem safe_readTrained (timings : PointTimings) : Safe pins (readTrained timings) :=
  safe_withBus (endures_collect fun _ _ => owned_read)

/-! ### Power and resets -/

theorem free_outside (hr : r.window.inDramDomain = false) (h : Hardware) :
    h.busDenied r = false := by
  refine Reaches.free (.inl (.inl ?_))
  intro hwindow
  rw [hwindow] at hr
  cases hr

/-- **The power is taken away without tripping an interlock**: the clocks are gated before, and
power-ok drops after, if the read of the reset control is not pinned. -/
theorem returns_powerOff (hreset : pins.find? Reset.control = none) (hpins : h.pins = pins) :
    (Sequences.powerOff config).Returns RegisterFile.answer h fun _ h' => h'.pins = pins := by
  refine Completes.andReturns (Hardware.completes_write (P := fun h' => h'.pins = pins ∧
    h'.value Clock.dramGate = 0) (free_outside rfl h) rfl fun writes =>
      ⟨_, effect_of_not_reactive (by decide) _ _, hpins, value_store_self ..⟩) fun _ h₁ h₁' => ?_
  obtain ⟨hpins₁, hgate₁⟩ := h₁'
  refine Completes.andReturns ((completes_read (free_outside rfl h₁)).andThen
    (Q := fun _ h' => h'.pins = pins ∧ h'.powered = false) fun v h₂ h₂' => ?_) fun _ h₃ h₃' => ?_
  · obtain ⟨busyReads, rfl⟩ := h₂'
    refine Hardware.completes_write (free_outside rfl _) rfl fun writes => ?_
    exact ⟨_, requestDown_of_gated (Word.set_and_ne_zero _ (by decide)) hgate₁, hpins₁, rfl⟩
  have hwait : (wait config Power.downRequest (allClear Power.dramDomain)).Endures
      RegisterFile.answer fun h : Hardware => h.pins = pins ∧ h.powered = false := by
    refine endures_wait (fun h hoff => ?_) _
    refine (completes_read (free_outside rfl h)).returns.mono fun _ h' hend => ?_
    obtain ⟨-, -, busyReads, rfl⟩ := hend
    exact hoff
  refine (hwait h₃ h₃').andThen (fun _ h₄ h₄' => ?_) fun _ _ h₄ => h₄.1
  obtain ⟨hpins₄, hoff₄⟩ := h₄'
  have hopen : h₄.Open Reset.control := ⟨by rw [hpins₄, hreset], free_outside rfl h₄, rfl⟩
  refine (hopen.completes_modify (P := fun h' => h'.pins = pins) (by decide)
    fun writes => ?_).returns.mono fun _ _ ⟨_, _, hend⟩ => hend
  refine ⟨_, writeReset_of_allowed (.inr hoff₄) (.inl ?_), hpins₄⟩
  rw [UInt32.and_assoc, Word.clear_and, UInt32.and_zero]

/-- With the power on, the reset control may be changed if power-ok is not dropped. -/
theorem safe_modify_reset (hreset : pins.find? Reset.control = none) {f : UInt32 → UInt32}
    (hkeeps : ∀ v, v &&& ~~~f v &&& Reset.phyPowerOk = 0) :
    Safe pins (Sequence.modify Reset.control f : Timed Unit) := by
  intro h hsupplied
  have hopen : h.Open Reset.control :=
    ⟨by rw [hsupplied.pins, hreset], free_outside rfl h, rfl⟩
  refine (hopen.completes_modify (P := Supplied pins) (by decide)
    fun writes => ?_).returns.mono fun _ _ ⟨_, _, hend⟩ => hend
  exact ⟨_, writeReset_of_allowed (.inl (hkeeps _)) (.inr hsupplied.powered), hsupplied.powered,
    hsupplied.pins⟩

theorem safe_reload {timings : PointTimings} (hspares : timings.Spares) (index : FrequencyIndex)
    (trained : Option (List UInt32)) : Safe pins (reload config index timings trained) := by
  refine endures_bind (safe_loadController hspares) fun _ => ?_
  refine endures_bind (safe_selectFrequency _) fun _ => ?_
  refine endures_bind safe_enterSelfRefresh fun _ => ?_
  rw [loadPhy_eq]
  refine endures_bind (safe_withBus (owned_applyProgram (hspares.not_mem_restored trained)))
    fun _ => ?_
  exact endures_bind (safe_modify (by decide) (by decide) _) fun _ => safe_wait (by decide) _

theorem safe_comeBack (hreset : pins.find? Reset.control = none) {timings : PointTimings}
    (hspares : timings.Spares) (point : FrequencyPoint) (trained : Option (List UInt32)) :
    Safe pins (comeBack config point timings trained) := by
  have hset : ∀ bits, Safe pins (Sequence.setBits Reset.control bits : Timed Unit) := by
    refine fun bits => safe_modify_reset hreset fun v => ?_
    rw [Word.lost_by_set, UInt32.zero_and]
  have hclear : Safe pins (Sequence.clearBits Reset.control Reset.allResets : Timed Unit) := by
    refine safe_modify_reset hreset fun v => ?_
    rw [Word.lost_by_clear, UInt32.and_assoc]
    exact UInt32.and_zero
  refine endures_bind (safe_wait (by decide) _) fun _ => ?_
  refine endures_bind (hset _) fun _ => endures_bind (hset _) fun _ => ?_
  refine endures_bind (safe_write (by decide) (by decide) _) fun _ => ?_
  refine endures_bind (safe_switchClock _) fun _ => ?_
  refine endures_bind hclear fun _ => endures_bind (safe_wait (by decide) _) fun _ => ?_
  exact endures_bind (safe_reload hspares _ _) fun _ => safe_conclude true

/-- **The power is brought back without tripping an interlock**, whatever state the hardware was
in. -/
theorem returns_powerUp (hreset : pins.find? Reset.control = none) (hpins : h.pins = pins)
    {timings : PointTimings} (hspares : timings.Spares) (point : FrequencyPoint)
    (trained : Option (List UInt32)) :
    (powerUp config point timings trained).Returns RegisterFile.answer h fun _ h' =>
      h'.Supplied pins := by
  rw [powerUp_eq_comeBack]
  refine Completes.andReturns ((completes_read (free_outside rfl h)).andThen
    (Q := fun _ h' => h'.Supplied pins) fun v h₁ h₁' => ?_) fun _ h₂ hsupplied₂ =>
      safe_comeBack hreset hspares point trained h₂ hsupplied₂
  obtain ⟨busyReads, rfl⟩ := h₁'
  refine Hardware.completes_write (free_outside rfl _) rfl fun writes => ?_
  exact ⟨_, effect_upRequest_of_set (Word.set_and_ne_zero _ (by decide)) _, rfl, hpins⟩

end Hardware

end Reclock
