/-
**Ready hardware serves the sequences.**

On ready hardware every part of a transition between frequency points runs to its end: no access is
refused, and no poll runs out.  Of each part is shown what it establishes; what it leaves alone
follows from the registers that it writes.

Main definitions:

* `Reclock.Hardware.Selects`, `ClockedBy`, `PortOpen` — what a switch sets up: the selectors of a
  point, the source of the clock, and the ports;
* `Reclock.Hardware.Closed`, `Refreshes`, `StandsBy` — what is as it was again after a switch: the
  quasi-dynamic registers, the DRAM's refresh, and what lies outside the power domain.

Main results:

* `Reclock.Hardware.Ready.serves_writeModeRegisters` — the mode registers are written in order;
* `Reclock.Hardware.Ready.serves_selectFrequency`, `serves_loadPrograms`, `serves_switchClock` —
  selectors, programs and clock of a point;
* `Reclock.Hardware.Ready.serves_dfiInit` — the PHY comes back initialised, for the same point.
-/

import Reclock.Proofs.ModeSequence
import Reclock.Proofs.Programming
import Reclock.Proofs.Words

set_option relaxedAutoImplicit false
set_option autoImplicit false

namespace Reclock

namespace Hardware

open Procedure Sequences

variable {α β : Type} {h : Hardware} {config : Config} {set : Register → Prop}

/-! ### Brackets -/

/-- **The quasi-dynamic registers are closed**, as is acknowledged. -/
structure Closed (h : Hardware) : Prop where
  control : h.value Ddrc.swctl &&& Ddrc.swDone = Ddrc.swDone
  status : h.value Ddrc.swstat = Ddrc.swDoneAck

theorem Closed.of_values {h' : Hardware} (hclosed : h.Closed)
    (hsame : ∀ q ∈ [Ddrc.swctl, Ddrc.swstat], h'.value q = h.value q) : h'.Closed := by
  refine ⟨?_, ?_⟩
  · rw [hsame _ (by decide)]
    exact hclosed.control
  · rw [hsame _ (by decide)]
    exact hclosed.status

theorem Closed.kept {h' : Hardware} (hclosed : h.Closed) (hkept : Kept set h h')
    (hset : ∀ r, set r → r ∉ [Ddrc.swctl, Ddrc.swstat]) : h'.Closed :=
  hclosed.of_values fun _ hq => hkept.apart (by decide) hset hq

/-- What holds at the end of the body of a bracket holds before the bracket is closed. -/
theorem Ready.completes_quasiDynamic {body : Timed Unit} {P : Hardware → Prop} (hready : h.Ready)
    (hlimit : 0 < config.pollLimit.toNat)
    (hbody : ∀ h₁, h₁.Ready → Kept (· = Ddrc.swctl) h h₁ →
      body.Completes RegisterFile.answer h₁ fun _ h₂ => h₂.Ready ∧ P h₂) :
    (quasiDynamic config body).Completes RegisterFile.answer h fun _ h' =>
      h'.Ready ∧ h'.Closed ∧ ∃ h₂, P h₂ ∧ Kept (· = Ddrc.swctl) h₂ h' := by
  refine (hready.serves_modify (r := Ddrc.swctl) (P := fun _ => True) (by decide)
    fun _ => ⟨_, effect_swctl _ _, trivial⟩).andThen fun _ h₁ hready₁ hkept₁ _ => ?_
  refine (hbody h₁ hready₁ hkept₁).andThen fun _ h₂ hend₂ => ?_
  have hacknowledged : ∀ writes, ∃ h', ({ h₂ with writes } : Hardware).effect Ddrc.swctl
      (h₂.value Ddrc.swctl ||| Ddrc.swDone) = .ok h' ∧ h'.Closed := by
    refine fun _ => ⟨_, effect_swctl _ _, ?_, ?_⟩
    · rw [value_store_of_ne (by decide), value_store_self]
      exact Word.set_and _ _
    · exact (value_store_self ..).trans (Word.set_and _ _)
  refine (hend₂.1.serves_modify (by decide) hacknowledged).andThen
    fun _ h₃ hready₃ hkept₃ hclosed₃ => ?_
  refine (hready₃.serves_wait hlimit (by decide) (by decide) ?_).mono fun _ h' hend => ?_
  · rw [hclosed₃.status]
    rfl
  · exact hend ▸ ⟨hready₃, hclosed₃, h₂, hend₂.2, hkept₃⟩

/-- The same for the PHY's bus, which the PHY owns again in the end. -/
theorem Ready.completes_withBus {body : Timed α} {P : α → Hardware → Prop} (hready : h.Ready)
    (hbody : ∀ h₁, h₁.Ready → Kept (· = Phy.busOwner) h h₁ →
      h₁.value Phy.busOwner = Phy.ownedBySoftware →
        body.Completes RegisterFile.answer h₁ fun a h₂ => h₂.Ready ∧ P a h₂) :
    (withBus body).Completes RegisterFile.answer h fun a h' =>
      h'.Ready ∧ h'.value Phy.busOwner = Phy.ownedByPhy ∧
        ∃ h₂, P a h₂ ∧ Kept (· = Phy.busOwner) h₂ h' := by
  refine (hready.serves_write_plain (r := Phy.busOwner) (by decide) (by decide) _).andThen
    fun _ h₁ hready₁ hkept₁ howner₁ => ?_
  refine (hbody h₁ hready₁ hkept₁ howner₁).andThen fun a h₂ hend₂ => ?_
  refine (hend₂.1.serves_write_plain (r := Phy.busOwner) (by decide) (by decide) _).andThen
    fun _ h₃ hready₃ hkept₃ howner₃ => ?_
  exact completes_of_run rfl ⟨hready₃, howner₃, h₂, hend₂.2, hkept₃⟩

/-- A loop over ready hardware, every turn of which leaves it ready and adds to what holds. -/
theorem completes_forEach {bs : List β} {f : β → Timed Unit} {J : List β → Hardware → Prop}
    (hf : ∀ before b, b ∈ bs → ∀ h, h.Ready → J before h →
      (f b).Completes RegisterFile.answer h fun _ h' => h'.Ready ∧ J (before ++ [b]) h')
    (hready : h.Ready) (before : List β) (hJ : J before h) :
    (forEach bs f).Completes RegisterFile.answer h fun _ h' => h'.Ready ∧ J (before ++ bs) h' :=
  Procedure.completes_forEach (J := fun before h => h.Ready ∧ J before h)
    (fun before b hb h hend => hf before b hb h hend.1 hend.2) before ⟨hready, hJ⟩

/-! ### Ports -/

/-- The registers of the ports lie above all others of the controller. -/
theorem pctrl_not_mem {rs : List Register}
    (hrs : ∀ r ∈ rs, r.window = .ddrc → r.offset.toNat < 0x490) (port : UInt8) :
    Ddrc.pctrl port ∉ rs :=
  fun hmem => Ddrc.pctrl_ne (hrs _ hmem) port rfl

theorem control_pctrl (port : UInt8) : (Ddrc.pctrl port).Control :=
  ⟨.inl nofun, pctrl_not_mem (by decide) port⟩

theorem pctrl_not_reactive (port : UInt8) : Ddrc.pctrl port ∉ Register.reactive :=
  pctrl_not_mem (by decide) port

theorem pctrl_not_status (port : UInt8) : Ddrc.pctrl port ∉ Register.statuses :=
  pctrl_not_mem (by decide) port

/-- The control register of a port. -/
def IsPort (r : Register) : Prop := ∃ port, r = Ddrc.pctrl port

theorem harmless_of_isPort : ∀ r, IsPort r → r.Harmless := by
  rintro r ⟨port, rfl⟩
  exact (control_pctrl port).2

theorem not_mem_of_isPort {rs : List Register}
    (hrs : ∀ r ∈ rs, r.window = .ddrc → r.offset.toNat < 0x490) : ∀ r, IsPort r → r ∉ rs := by
  rintro _ ⟨port, rfl⟩
  exact pctrl_not_mem hrs port

theorem Ready.serves_disablePorts (hready : h.Ready) (hlimit : 0 < config.pollLimit.toNat) :
    h.Serves (disablePorts config) IsPort fun _ _ => True := by
  refine hready.serves (within_disablePorts fun port => ⟨port, rfl⟩) harmless_of_isPort ?_
  refine (completes_forEach (J := fun _ _ => True) (fun _ port _ h₁ hready₁ _ => ?_) hready []
    trivial).andThen fun _ h₁ hend₁ => ?_
  · exact (hready₁.serves_modify_plain (control_pctrl port) (pctrl_not_reactive port) _).mono
      fun _ _ hend => ⟨hend.1, trivial⟩
  · refine (hend₁.1.serves_wait hlimit (by decide) (by decide) ?_).mono fun _ _ _ => trivial
    rw [hend₁.1.portsIdle]
    rfl

/-- A port accepts transactions. -/
def PortOpen (h : Hardware) (port : UInt8) : Prop :=
  h.value (Ddrc.pctrl port) &&& Ddrc.portEnable = Ddrc.portEnable

theorem Ready.serves_enablePorts (hready : h.Ready) :
    h.Serves (enablePorts config) IsPort fun _ h' =>
      ∀ port : UInt8, port.toNat < config.axiPorts.toNat → h'.PortOpen port := by
  refine hready.serves (within_enablePorts fun port => ⟨port, rfl⟩) harmless_of_isPort ?_
  refine (completes_forEach (J := fun opened h => ∀ port ∈ opened, h.PortOpen port)
    (fun opened port _ h₁ hready₁ hopened => ?_) hready [] nofun).mono fun _ h' hend port hport =>
      hend.2 port (Config.mem_ports.2 hport)
  refine (hready₁.serves_modify_plain (control_pctrl port) (pctrl_not_reactive port) _).mono
    fun _ h₂ hend => ⟨hend.1, fun other hother => ?_⟩
  obtain ⟨-, hkept, hvalue⟩ := hend
  -- A port that is opened again stays open.
  by_cases hsame : Ddrc.pctrl other = Ddrc.pctrl port
  · rw [PortOpen, hsame, hvalue]
    exact Word.set_and _ _
  · have hother' : other ∈ opened := by
      rcases List.mem_append.1 hother with hother | hother
      · exact hother
      · exact absurd (by rw [List.mem_singleton.1 hother]) hsame
    rw [PortOpen, hkept.unwritten (pctrl_not_status other) hsame]
    exact hopened other hother'

/-! ### Self-refresh -/

theorem harmless_selfRefreshControls : ∀ r ∈ selfRefreshControls, r.Harmless := by decide

/-- Self-refresh is entered and left in the same way: refresh and calibration are switched, then
the request, and the status follows. -/
theorem Ready.serves_selfRefresh {f g k : UInt32 → UInt32} {condition : UInt32 → Bool}
    {status : UInt32} (hready : h.Ready) (hlimit : 0 < config.pollLimit.toNat)
    (hstatus : ∀ v, (if k v &&& Ddrc.selfRefreshForced == Ddrc.selfRefreshForced then
      forcedSelfRefresh else Ddrc.modeNormal) = status)
    (hcondition : condition status = true) :
    (do quasiDynamic config do
          Sequence.modify Ddrc.rfshctl3 f
          Sequence.modify Ddrc.zqctl0 g
        Sequence.modify Ddrc.pwrctl k
        wait config Ddrc.stat condition : Timed Unit).Completes RegisterFile.answer h
      fun _ h' => h'.value Ddrc.stat = status ∧ h'.Closed ∧ ∃ u v w,
        h'.value Ddrc.rfshctl3 = f u ∧ h'.value Ddrc.zqctl0 = g v ∧ h'.value Ddrc.pwrctl = k w := by
  refine (hready.completes_quasiDynamic (P := fun h₂ => ∃ u v,
    h₂.value Ddrc.rfshctl3 = f u ∧ h₂.value Ddrc.zqctl0 = g v) hlimit
    fun h₁ hready₁ _ => ?_).andThen fun _ h₂ hend₂ => ?_
  · refine (hready₁.serves_modify_plain (by decide) (by decide) f).andThen
      fun _ h₂ hready₂ _ hrefresh₂ => ?_
    refine (hready₂.serves_modify_plain (by decide) (by decide) g).mono fun _ h₃ hend => ?_
    obtain ⟨hready₃, hkept₃, hcalibrate₃⟩ := hend
    refine ⟨hready₃, h₁.value Ddrc.rfshctl3, h₂.value Ddrc.zqctl0, ?_, hcalibrate₃⟩
    rw [hkept₃.unwritten (by decide) (by decide), hrefresh₂]
  · obtain ⟨hready₂, hclosed₂, hbody, ⟨u, v, hrefresh, hcalibrate⟩, hkept₂⟩ := hend₂
    have hfollows : ∀ writes, ∃ h', ({ h₂ with writes } : Hardware).effect Ddrc.pwrctl
        (k (h₂.value Ddrc.pwrctl)) = .ok h' ∧ h'.value Ddrc.stat = status ∧
          h'.value Ddrc.pwrctl = k (h₂.value Ddrc.pwrctl) := by
      refine fun _ => ⟨_, effect_pwrctl _ _, (value_store_self ..).trans (hstatus _), ?_⟩
      rw [value_store_of_ne (by decide), value_store_self]
    refine (hready₂.serves_modify (by decide) hfollows).andThen
      fun _ h₃ hready₃ hkept₃ hstat₃ => ?_
    refine (hready₃.serves_wait hlimit (by decide) (by decide) ?_).mono fun _ h' hend => ?_
    · rw [hstat₃.1]
      exact hcondition
    subst hend
    refine ⟨hstat₃.1, hclosed₂.kept hkept₃ (by rintro r rfl; decide), u, v, _, ?_, ?_, hstat₃.2⟩
    · rw [hkept₃.unwritten (by decide) (by decide), hkept₂.unwritten (by decide) (by decide)]
      exact hrefresh
    · rw [hkept₃.unwritten (by decide) (by decide), hkept₂.unwritten (by decide) (by decide)]
      exact hcalibrate

theorem Ready.serves_enterSelfRefresh (hready : h.Ready) (hlimit : 0 < config.pollLimit.toNat) :
    h.Serves (enterSelfRefresh config) (· ∈ selfRefreshControls) fun _ h' =>
      h'.value Ddrc.stat = forcedSelfRefresh := by
  refine hready.serves (within_enterSelfRefresh fun r hr => hr) harmless_selfRefreshControls ?_
  refine (hready.serves_selfRefresh hlimit (fun v => ?_) (by decide)).mono fun _ _ hend => hend.1
  rw [Word.set_and, beq_self_eq_true, if_pos rfl]

/-- The DRAM is refreshed and calibrated automatically, and self-refresh is not asked for. -/
structure Refreshes (h : Hardware) : Prop where
  refresh : h.value Ddrc.rfshctl3 &&& Ddrc.noAutoRefresh = 0
  calibration : h.value Ddrc.zqctl0 &&& Ddrc.noAutoZq = 0
  request : h.value Ddrc.pwrctl &&& Ddrc.selfRefreshForced = 0

theorem Refreshes.of_values {h' : Hardware} (hrefreshes : h.Refreshes)
    (hsame : ∀ q ∈ [Ddrc.rfshctl3, Ddrc.zqctl0, Ddrc.pwrctl], h'.value q = h.value q) :
    h'.Refreshes := by
  refine ⟨?_, ?_, ?_⟩
  · rw [hsame _ (by decide)]
    exact hrefreshes.refresh
  · rw [hsame _ (by decide)]
    exact hrefreshes.calibration
  · rw [hsame _ (by decide)]
    exact hrefreshes.request

theorem Refreshes.kept {h' : Hardware} (hrefreshes : h.Refreshes) (hkept : Kept set h h')
    (hset : ∀ r, set r → r ∉ [Ddrc.rfshctl3, Ddrc.zqctl0, Ddrc.pwrctl]) : h'.Refreshes :=
  hrefreshes.of_values fun _ hq => hkept.apart (by decide) hset hq

theorem Ready.serves_exitSelfRefresh (hready : h.Ready) (hlimit : 0 < config.pollLimit.toNat) :
    h.Serves (exitSelfRefresh config) (· ∈ selfRefreshControls) fun _ h' =>
      h'.value Ddrc.stat = Ddrc.modeNormal ∧ h'.Refreshes ∧ h'.Closed := by
  refine hready.serves (within_exitSelfRefresh fun r hr => hr) harmless_selfRefreshControls ?_
  have hnormal : inNormalMode Ddrc.modeNormal = true := by decide
  refine (hready.serves_selfRefresh hlimit (fun v => ?_) hnormal).mono fun _ h' hend => ?_
  · rw [Word.clear_and]
    rfl
  · obtain ⟨hstatus, hclosed, u, v, w, hrefresh, hcalibrate, hrequest⟩ := hend
    refine ⟨hstatus, ⟨?_, ?_, ?_⟩, hclosed⟩
    · rw [hrefresh, Word.clear_and]
    · rw [hcalibrate, Word.clear_and]
    · rw [hrequest, Word.clear_and]

/-! ### Halting and calibrating -/

theorem Ready.serves_halt (hready : h.Ready) (hlimit : 0 < config.pollLimit.toNat) :
    h.Serves (halt config) (· = Ddrc.dbg1) fun _ _ => True := by
  refine hready.serves (within_halt rfl) (by rintro r rfl; decide) ?_
  refine (hready.serves_modify_plain (by decide) (by decide) _).andThen
    fun _ h₁ hready₁ _ _ => ?_
  refine (hready₁.serves_wait hlimit (by decide) (by decide) ?_).mono fun _ _ _ => trivial
  rw [hready₁.drained]
  rfl

theorem Ready.serves_resume (hready : h.Ready) :
    h.Serves resume (· = Ddrc.dbg1) fun _ h' => h'.value Ddrc.dbg1 &&& Ddrc.halted = 0 := by
  refine hready.serves (within_resume rfl) (by rintro r rfl; decide) ?_
  refine (hready.serves_modify_plain (by decide) (by decide) _).completes fun _ h' _ hvalue => ?_
  rw [hvalue]
  exact Word.clear_and _ _

theorem Ready.serves_calibrateUnless (hready : h.Ready) (hlimit : 0 < config.pollLimit.toNat)
    (bypassed : Bool) :
    h.Serves (calibrateUnless config bypassed) (· = Ddrc.dbgcmd) fun _ _ => True := by
  refine hready.serves (within_calibrateUnless rfl) (by rintro r rfl; decide) ?_
  cases bypassed with
  | true => exact completes_of_run rfl trivial
  | false =>
      have hidle : ∀ h : Hardware, h.Ready →
          (wait config Ddrc.dbgstat (allClear Ddrc.zqBusy)).Completes RegisterFile.answer h
            fun _ h' => h' = h := by
        intro h₁ hready₁
        refine hready₁.serves_wait hlimit (by decide) (by decide) ?_
        rw [hready₁.calibrated]
        rfl
      refine (hidle h hready).andThen fun _ h₁ hend₁ => ?_
      subst hend₁
      refine (hready.serves_modify (P := fun _ => True) (by decide)
        fun _ => ⟨_, effect_dbgcmd _ _, trivial⟩).andThen fun _ h₂ hready₂ _ _ => ?_
      exact (hidle h₂ hready₂).mono fun _ _ _ => trivial

/-! ### Frequency selectors -/

theorem harmless_selectorControls : ∀ r ∈ selectorControls, r.Harmless := by decide

/-- **Both selectors name the point** whose number fits them. -/
structure Selects (h : Hardware) (index : FrequencyIndex) : Prop where
  controller : h.value Ddrc.mstr2 &&& Ddrc.targetFrequencyMask =
    index.val.toUInt32 &&& Ddrc.targetFrequencyMask
  dfi : h.value Ddrc.dfimisc &&& Ddrc.dfiFrequencyMask =
    index.val.toUInt32 <<< Ddrc.dfiFrequencyShift &&& Ddrc.dfiFrequencyMask

theorem Selects.kept {h' : Hardware} {index : FrequencyIndex} (hselects : h.Selects index)
    (hkept : Kept set h h') (hmstr2 : ¬ set Ddrc.mstr2) (hdfimisc : ¬ set Ddrc.dfimisc) :
    h'.Selects index := by
  refine ⟨?_, ?_⟩
  · rw [hkept.unwritten (by decide) hmstr2]
    exact hselects.controller
  · rw [hkept.unwritten (by decide) hdfimisc]
    exact hselects.dfi

/-- Whether a word asks the PHY to initialise. -/
def asksInit (v : UInt32) : Bool := v &&& Ddrc.dfiInitStart == Ddrc.dfiInitStart

/-- What the DFI's status shows after its control has been written. -/
def statusAfter (before after status : UInt32) : UInt32 :=
  if !asksInit before && asksInit after then 0
  else if asksInit before && !asksInit after then Ddrc.dfiComplete
  else status

theorem value_writeDfimisc (h : Hardware) (v : UInt32) :
    (h.writeDfimisc v).value Ddrc.dfimisc = v ∧
      (h.writeDfimisc v).value Ddrc.dfistat =
        statusAfter (h.value Ddrc.dfimisc) v (h.value Ddrc.dfistat) := by
  have hne : Ddrc.dfimisc ≠ Ddrc.dfistat := by decide
  unfold writeDfimisc statusAfter asksInit
  dsimp only
  split
  · exact ⟨by rw [value_store_of_ne hne, value_store_self], value_store_self ..⟩
  · split
    · exact ⟨by rw [value_store_of_ne hne, value_store_self], value_store_self ..⟩
    · exact ⟨value_store_self .., value_store_of_ne hne.symm h v⟩

theorem Ready.serves_modify_dfimisc (hready : h.Ready) (f : UInt32 → UInt32) :
    h.Serves (Sequence.modify Ddrc.dfimisc f : Timed Unit) (· = Ddrc.dfimisc) fun _ h' =>
      h'.value Ddrc.dfimisc = f (h.value Ddrc.dfimisc) ∧
        h'.value Ddrc.dfistat = statusAfter (h.value Ddrc.dfimisc) (f (h.value Ddrc.dfimisc))
          (h.value Ddrc.dfistat) :=
  hready.serves_modify (by decide) fun writes =>
    ⟨_, effect_dfimisc _ _, value_writeDfimisc { h with writes } _⟩

theorem Ready.serves_selectFrequency (hready : h.Ready) (hlimit : 0 < config.pollLimit.toNat)
    (index : FrequencyIndex) :
    h.Serves (selectFrequency config index) (· ∈ selectorControls) fun _ h' =>
      h'.Selects index := by
  refine hready.serves (within_selectFrequency fun r hr => hr) harmless_selectorControls ?_
  refine (hready.completes_quasiDynamic (P := fun h' => h'.Selects index) hlimit
    fun h₁ hready₁ _ => ?_).mono fun _ h' hend => ?_
  · refine (hready₁.serves_modify_plain (by decide) (by decide) _).andThen
      fun _ h₂ hready₂ _ hmstr2 => ?_
    refine (hready₂.serves_modify_dfimisc _).mono fun _ h₃ hend => ?_
    obtain ⟨hready₃, hkept₃, hdfimisc, -⟩ := hend
    refine ⟨hready₃, ?_, ?_⟩
    · rw [hkept₃.value _ (by rintro r rfl; decide), hmstr2]
      exact Word.replace_and ..
    · rw [hdfimisc]
      exact Word.replace_and ..
  · obtain ⟨-, -, h₂, hselects, hkept⟩ := hend
    exact hselects.kept hkept (by decide) (by decide)

/-! ### Initialising the PHY -/

theorem harmless_initControls : ∀ r, r = Ddrc.swctl ∨ r = Ddrc.dfimisc → r.Harmless := by
  rintro r (rfl | rfl) <;> decide

theorem asksInit_reset (v : UInt32) :
    asksInit (v &&& ~~~(Ddrc.dfiCompleteEnable ||| Ddrc.dfiInitStart)) = false := by
  have happart : ~~~(Ddrc.dfiCompleteEnable ||| Ddrc.dfiInitStart) &&& Ddrc.dfiInitStart = 0 := by
    decide
  rw [asksInit, UInt32.and_assoc, happart, UInt32.and_zero]
  rfl

theorem asksInit_set (v : UInt32) : asksInit (v ||| Ddrc.dfiInitStart) = true := by
  rw [asksInit, Word.set_and, beq_self_eq_true]

theorem asksInit_clear (v : UInt32) : asksInit (v &&& ~~~Ddrc.dfiInitStart) = false := by
  rw [asksInit, Word.clear_and]
  rfl

theorem asksInit_enable (v : UInt32) : asksInit (v ||| Ddrc.dfiCompleteEnable) = asksInit v := by
  rw [asksInit, Word.set_and_apart v (by decide), asksInit]

/-- Bits apart from those of the handshake come through it. -/
theorem handshake_and {mask : UInt32} (v : UInt32)
    (hreset : ~~~(Ddrc.dfiCompleteEnable ||| Ddrc.dfiInitStart) &&& mask = mask)
    (hclear : ~~~Ddrc.dfiInitStart &&& mask = mask) (hstart : Ddrc.dfiInitStart &&& mask = 0)
    (henable : Ddrc.dfiCompleteEnable &&& mask = 0) :
    ((v &&& ~~~(Ddrc.dfiCompleteEnable ||| Ddrc.dfiInitStart) ||| Ddrc.dfiInitStart) &&&
      ~~~Ddrc.dfiInitStart ||| Ddrc.dfiCompleteEnable) &&& mask = v &&& mask := by
  rw [Word.set_and_apart _ henable, Word.clear_and_apart _ hclear, Word.set_and_apart _ hstart,
    Word.clear_and_apart _ hreset]

/-- The handshake is over in the end, and acted upon. -/
theorem handshake_over (v : UInt32) :
    ((v &&& ~~~(Ddrc.dfiCompleteEnable ||| Ddrc.dfiInitStart) ||| Ddrc.dfiInitStart) &&&
      ~~~Ddrc.dfiInitStart ||| Ddrc.dfiCompleteEnable) &&&
        (Ddrc.dfiCompleteEnable ||| Ddrc.dfiInitStart) = Ddrc.dfiCompleteEnable := by
  have hstart : ~~~Ddrc.dfiInitStart &&& (Ddrc.dfiCompleteEnable ||| Ddrc.dfiInitStart) =
      Ddrc.dfiCompleteEnable := by
    decide
  have henable : ~~~(Ddrc.dfiCompleteEnable ||| Ddrc.dfiInitStart) &&& Ddrc.dfiCompleteEnable =
      0 := by
    decide
  rw [Word.or_and, UInt32.and_assoc, hstart, Word.or_and, UInt32.and_assoc, henable,
    UInt32.and_zero]
  decide

/-- **The PHY comes back initialised**, for the same point. -/
theorem Ready.serves_dfiInit (hready : h.Ready) (hlimit : 0 < config.pollLimit.toNat) :
    h.Serves (dfiInit config) (fun r => r = Ddrc.swctl ∨ r = Ddrc.dfimisc) fun _ h' =>
      (h'.value Ddrc.dfistat = Ddrc.dfiComplete ∧
        h'.value Ddrc.dfimisc &&& (Ddrc.dfiCompleteEnable ||| Ddrc.dfiInitStart) =
          Ddrc.dfiCompleteEnable) ∧
        h'.value Ddrc.dfimisc &&& Ddrc.dfiFrequencyMask =
          h.value Ddrc.dfimisc &&& Ddrc.dfiFrequencyMask := by
  refine hready.serves (within_dfiInit (.inl rfl) (.inr rfl)) harmless_initControls ?_
  refine (hready.completes_quasiDynamic (P := fun h' =>
    (h'.value Ddrc.dfistat = Ddrc.dfiComplete ∧
      h'.value Ddrc.dfimisc &&& (Ddrc.dfiCompleteEnable ||| Ddrc.dfiInitStart) =
        Ddrc.dfiCompleteEnable) ∧
    h'.value Ddrc.dfimisc &&& Ddrc.dfiFrequencyMask =
      h.value Ddrc.dfimisc &&& Ddrc.dfiFrequencyMask) hlimit fun h₁ hready₁ hkept₁ => ?_).mono
    fun _ h' hend => ?_
  · rw [← hkept₁.value Ddrc.dfimisc (by rintro r rfl; decide)]
    refine (hready₁.serves_modify_dfimisc _).andThen fun _ h₂ hready₂ _ hvalue₂ => ?_
    refine (hready₂.serves_modify_dfimisc _).andThen fun _ h₃ hready₃ _ hvalue₃ => ?_
    -- The request rises, so that completion drops, and falls again, so that it comes back.
    rw [hvalue₂.1] at hvalue₃
    have hdropped : h₃.value Ddrc.dfistat = 0 := by
      rw [hvalue₃.2, statusAfter, asksInit_reset, asksInit_set]
      rfl
    refine (hready₃.serves_wait hlimit (by decide) (by decide) (by rw [hdropped]; rfl)).andThen
      fun _ h₄ hend₄ => ?_
    subst hend₄
    refine (hready₃.serves_modify_dfimisc _).andThen fun _ h₄ hready₄ _ hvalue₄ => ?_
    rw [hvalue₃.1] at hvalue₄
    have hcomplete : h₄.value Ddrc.dfistat = Ddrc.dfiComplete := by
      rw [hvalue₄.2, statusAfter, asksInit_set, asksInit_clear]
      rfl
    refine (hready₄.serves_wait hlimit (by decide) (by decide) (by rw [hcomplete]; rfl)).andThen
      fun _ h₅ hend₅ => ?_
    subst hend₅
    refine (hready₄.serves_modify_dfimisc _).mono fun _ h₆ hend => ?_
    obtain ⟨hready₆, -, hvalue₆, hstatus₆⟩ := hend
    rw [hvalue₄.1] at hvalue₆ hstatus₆
    refine ⟨hready₆, ⟨?_, ?_⟩, ?_⟩
    · rw [hstatus₆, statusAfter, asksInit_enable, asksInit_clear, hcomplete]
      rfl
    · rw [hvalue₆]
      exact handshake_over _
    · rw [hvalue₆]
      exact handshake_and _ (by decide) (by decide) (by decide) (by decide)
  · obtain ⟨-, -, h₂, ⟨hstatus, hfield⟩, hkept⟩ := hend
    rw [hkept.value Ddrc.dfimisc (by rintro r rfl; decide),
      hkept.value Ddrc.dfistat (by rintro r rfl; decide)]
    exact ⟨hstatus, hfield⟩

/-! ### Mode registers -/

/-- The registers that mode registers are written by. -/
def IsModeControl (r : Register) : Prop := r = Ddrc.mrctrl0 ∨ r = Ddrc.mrctrl1

theorem harmless_of_isModeControl : ∀ r, IsModeControl r → r.Harmless := by
  rintro r (rfl | rfl) <;> decide

/-- Ready hardware takes mode register writes. -/
theorem Ready.takesModes (hready : h.Ready) : h.TakesModes := by
  refine ⟨hready.powered, hready.unpinned _, ?_, hready.busyReads⟩
  rw [hready.modeStatus]
  rfl

/-- **The mode registers are written in order**, and none besides. -/
theorem Ready.serves_writeModeRegisters (hready : h.Ready)
    (hlimit : modeBusyReads < config.pollLimit.toNat) (hranks : config.modeRanks.toNat < 256)
    (program : RegisterProgram) :
    h.Serves (writeModeRegisters config program) IsModeControl fun _ h' =>
      h'.modeWrites.toList = h.modeWrites.toList ++ program.map modeEntry :=
  hready.serves (within_writeModeRegisters (.inr rfl) (.inl rfl)) harmless_of_isModeControl
    (hready.takesModes.completes_writeModeRegisters hlimit hranks program)

/-! ### Programs -/

theorem Ready.serves_loadController (hready : h.Ready) (hlimit : 0 < config.pollLimit.toNat)
    {timings : PointTimings}
    (hclear : ∀ r ∈ timings.controller.registers .ddrc, r ∉ Register.reserved) :
    h.Serves (loadController config timings)
      (fun r => r = Ddrc.swctl ∨ r ∈ timings.controller.registers .ddrc)
      fun _ h' => h'.Holds .ddrc timings.controller := by
  refine hready.serves (within_loadController (.inl rfl) fun r hr => .inr hr) ?_ ?_
  · rintro r (rfl | hr)
    · decide
    · exact harmless_of_program rfl hclear r hr
  · refine (hready.completes_quasiDynamic (P := fun h' => h'.Holds .ddrc timings.controller) hlimit
      fun h₁ hready₁ _ => ?_).mono fun _ h' hend => ?_
    · exact (hready₁.serves_applyProgram rfl hclear nofun).mono
        fun _ _ hend => ⟨hend.1, hend.2.2⟩
    · obtain ⟨-, -, h₂, hholds, hkept⟩ := hend
      refine hholds.kept hkept rfl hclear ?_
      rintro r hr rfl
      exact hclear _ hr (Register.mem_reserved_of_named (by decide))

/-- A program is loaded into the PHY while software owns its bus. -/
theorem Ready.serves_withBus_program (hready : h.Ready) {program : RegisterProgram}
    (hclear : ∀ r ∈ program.registers .phy, r ∉ Register.reserved) :
    h.Serves (withBus (Sequence.applyProgram .phy program) : Timed Unit)
      (fun r => r = Phy.busOwner ∨ r ∈ program.registers .phy)
      fun _ h' => h'.value Phy.busOwner = Phy.ownedByPhy ∧ h'.Holds .phy program := by
  refine hready.serves (within_withBus (.inl rfl)
    (Sequence.within_applyProgram fun r hr => .inr hr)) ?_ ?_
  · rintro r (rfl | hr)
    · decide
    · exact harmless_of_program rfl hclear r hr
  · refine (hready.completes_withBus (P := fun _ h' => h'.Holds .phy program)
      fun h₁ hready₁ _ howner₁ => ?_).mono fun _ h' hend => ?_
    · exact (hready₁.serves_applyProgram rfl hclear fun _ => howner₁).mono
        fun _ _ hend => ⟨hend.1, hend.2.2⟩
    · obtain ⟨-, howner, h₂, hholds, hkept⟩ := hend
      refine ⟨howner, hholds.kept hkept rfl hclear ?_⟩
      rintro r hr rfl
      exact hclear _ hr (Register.mem_reserved_of_reachable (by decide))

/-- The registers that the programs of a switch are loaded through and into. -/
def IsLoaded (timings : PointTimings) (r : Register) : Prop :=
  r = Ddrc.swctl ∨ r = Phy.busOwner ∨ r ∈ timings.registers

theorem harmless_of_isLoaded {timings : PointTimings} (hclear : timings.KeepsClear) :
    ∀ r, IsLoaded timings r → r.Harmless := by
  rintro r (rfl | rfl | hr)
  · decide
  · decide
  · exact Register.harmless_of_not_reserved (hclear r hr) (PointTimings.inDramDomain_of_mem hr)

theorem not_isLoaded {timings : PointTimings} (hclear : timings.KeepsClear) {r : Register}
    (hr : r ∈ Register.reserved) (hothers : r ∉ [Ddrc.swctl, Phy.busOwner]) :
    ¬ IsLoaded timings r := by
  rintro (rfl | rfl | hprogram)
  · exact hothers (by decide)
  · exact hothers (by decide)
  · exact hclear r hprogram hr

theorem not_mem_of_isLoaded {timings : PointTimings} (hclear : timings.KeepsClear)
    {rs : List Register} (hrs : ∀ q ∈ rs, q.window.inDramDomain = true →
      q ∈ Register.reserved ∧ q ∉ [Ddrc.swctl, Phy.busOwner]) :
    ∀ r, IsLoaded timings r → r ∉ rs := by
  intro r hr hmem
  have hdomain : r.window.inDramDomain = true := by
    rcases hr with rfl | rfl | hprogram
    · rfl
    · rfl
    · exact PointTimings.inDramDomain_of_mem hprogram
  exact not_isLoaded hclear (hrs r hmem hdomain).1 (hrs r hmem hdomain).2 hr

/-- **Controller and PHY hold the programs of the point**, and the PHY owns its bus again. -/
theorem Ready.serves_loadPrograms (hready : h.Ready) (hlimit : 0 < config.pollLimit.toNat)
    {timings : PointTimings} (hclear : timings.KeepsClear) :
    h.Serves (loadPrograms config timings) (IsLoaded timings) fun _ h' =>
      h'.Holds .ddrc timings.controller ∧
        h'.Holds .phy (timings.phyInit ++ timings.phyTrained) ∧
          h'.value Phy.busOwner = Phy.ownedByPhy := by
  refine hready.serves (within_loadPrograms (.inl rfl) (.inr (.inl rfl)) fun r hr =>
    .inr (.inr hr)) (harmless_of_isLoaded hclear) ?_
  obtain ⟨hcontroller, hinit, htrained, -⟩ := hclear.parts
  have hphy : ∀ r ∈ RegisterProgram.registers .phy (timings.phyInit ++ timings.phyTrained),
      r ∉ Register.reserved := by
    rw [RegisterProgram.registers_append, List.forall_mem_append]
    exact ⟨hinit, htrained⟩
  refine (hready.serves_loadController hlimit hcontroller).andThen
    fun _ h₁ hready₁ _ hholds₁ => ?_
  rw [← applyProgram_append]
  refine (hready₁.serves_withBus_program hphy).completes fun _ h' hkept hend => ?_
  refine ⟨hholds₁.kept hkept rfl hcontroller ?_, hend.2, hend.1⟩
  rintro r hr (rfl | hr')
  · cases RegisterProgram.window_of_mem_registers hr
  · cases (RegisterProgram.window_of_mem_registers hr).symm.trans
      (RegisterProgram.window_of_mem_registers hr')

/-! ### The clock -/

/-- The core clock comes from the source that the point asks for. -/
def ClockedBy (h : Hardware) (bypass : Bool) : Prop :=
  h.value Clock.coreSelect &&& Clock.selectBypass = if bypass then Clock.selectBypass else 0

theorem harmless_clockControls : ∀ r ∈ clockControls, r.Harmless := by decide

/-- The PLL runs, and is locked. -/
def PllLocked (h : Hardware) : Prop :=
  h.value Clock.pllControl &&& (Clock.pllRun ||| Clock.pllLock) = Clock.pllRun ||| Clock.pllLock

theorem PllLocked.kept {h' : Hardware} (hlocked : h.PllLocked) (hkept : Kept set h h')
    (hset : ¬ set Clock.pllControl) : h'.PllLocked := by
  rw [PllLocked, hkept.unwritten (by decide) hset]
  exact hlocked

/-- The registers that show whether the sequencer, or the power, is being switched. -/
def requestControls : List Register :=
  [FastSwitch.ctrl, FastSwitch.stat, Power.downRequest, Power.upRequest]

/-- **What lies outside the power domain stands by**: the PLL is locked, the hardware sequencer
idle, and the power not being switched. -/
structure StandsBy (h : Hardware) : Prop where
  locked : h.PllLocked
  stopRequest : h.value FastSwitch.ctrl &&& FastSwitch.stopRequest = 0
  stopped : h.value FastSwitch.stat = 0
  requests : ∀ r ∈ Register.requests, h.value r = 0

theorem StandsBy.relocked {h' : Hardware} (hstands : h.StandsBy) (hlocked : h'.PllLocked)
    (hsame : ∀ q ∈ requestControls, h'.value q = h.value q) : h'.StandsBy := by
  refine ⟨hlocked, ?_, ?_, fun r hr => ?_⟩
  · rw [hsame _ (by decide)]
    exact hstands.stopRequest
  · rw [hsame _ (by decide)]
    exact hstands.stopped
  · have hlisted : ∀ r ∈ Register.requests, r ∈ requestControls := by decide
    rw [hsame _ (hlisted r hr)]
    exact hstands.requests r hr

theorem StandsBy.of_values {h' : Hardware} (hstands : h.StandsBy)
    (hsame : ∀ q ∈ Clock.pllControl :: requestControls, h'.value q = h.value q) : h'.StandsBy := by
  refine hstands.relocked ?_ fun q hq => hsame q (List.mem_cons_of_mem _ hq)
  rw [PllLocked, hsame _ (by decide)]
  exact hstands.locked

theorem StandsBy.kept {h' : Hardware} (hstands : h.StandsBy) (hkept : Kept set h h')
    (hset : ∀ r, set r → r ∉ Clock.pllControl :: requestControls) : h'.StandsBy :=
  hstands.of_values fun _ hq => hkept.apart (by decide) hset hq

/-- The PLL locks once it is set running. -/
theorem locked_and (v : UInt32) :
    ((v ||| Clock.pllRun) &&& ~~~Clock.pllLock ||| Clock.pllLock) &&&
      (Clock.pllRun ||| Clock.pllLock) = Clock.pllRun ||| Clock.pllLock := by
  have hrun : ~~~Clock.pllLock &&& (Clock.pllRun ||| Clock.pllLock) = Clock.pllRun := by decide
  rw [Word.or_and, UInt32.and_assoc, hrun, Word.set_and]
  decide

theorem Ready.serves_switchClock (hready : h.Ready) (hlimit : 0 < config.pollLimit.toNat)
    (point : FrequencyPoint) :
    h.Serves (switchClock config point) (· ∈ clockControls) fun _ h' =>
      h'.ClockedBy point.bypass ∧ (h.PllLocked → h'.PllLocked) := by
  refine hready.serves (within_switchClock fun r hr => hr) harmless_clockControls ?_
  unfold switchClock ClockedBy
  cases point.bypass with
  | true =>
      simp only [if_true]
      refine (hready.serves_modify (P := fun h' => h'.value Clock.bypassStat = Clock.bypassUpdated)
        (by decide) fun _ => ⟨_, effect_bypassDivider _ _, value_store_self ..⟩).andThen
        fun _ h₁ hready₁ hkept₁ hstatus₁ => ?_
      refine (hready₁.serves_wait hlimit (by decide) (by decide) (by rw [hstatus₁]; rfl)).andThen
        fun _ h₂ hend₂ => ?_
      subst hend₂
      refine (hready₁.serves_modify_plain (by decide) (by decide) _).completes
        fun _ h' hkept hvalue => ⟨?_, fun hlocked => ?_⟩
      · rw [hvalue]
        exact Word.set_and _ _
      · exact (hlocked.kept hkept₁ (by decide)).kept hkept (by decide)
  | false =>
      simp only [Bool.false_eq_true, if_false]
      refine (hready.serves_modify (P := fun _ => True) (by decide) fun _ =>
        ⟨_, effect_pllControl _ _, trivial⟩).andThen fun _ h₁ hready₁ _ _ => ?_
      refine (hready₁.serves_write_plain (by decide) (by decide) _).andThen
        fun _ h₂ hready₂ _ _ => ?_
      refine (hready₂.serves_modify (P := fun h' => h'.PllLocked ∧
        anySet Clock.pllLock (h'.value Clock.pllControl) = true) (by decide) fun _ =>
          ⟨_, effect_pllControl _ _, ?_⟩).andThen fun _ h₃ hready₃ _ hlocked₃ => ?_
      · rw [PllLocked, value_store_self, if_pos (Word.set_and_ne_zero _ (by decide)), anySet,
          Word.set_and]
        exact ⟨locked_and _, by decide⟩
      refine (hready₃.serves_wait hlimit (by decide) (by decide) hlocked₃.2).andThen
        fun _ h₄ hend₄ => ?_
      subst hend₄
      refine (hready₃.serves_modify_plain (by decide) (by decide) _).completes
        fun _ h' hkept hvalue => ⟨?_, fun _ => hlocked₃.1.kept hkept (by decide)⟩
      rw [hvalue]
      exact Word.clear_and _ _

/-- The switch of the clock leaves alone what else lies outside the power domain. -/
theorem StandsBy.switchClock {h' : Hardware} (hstands : h.StandsBy)
    (hkept : Kept (· ∈ clockControls) h h') (hlocked : h'.PllLocked) : h'.StandsBy :=
  hstands.relocked hlocked fun _ hq => hkept.apart (by decide) (by decide) hq

end Hardware

end Reclock
