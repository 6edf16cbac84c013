/-
**Powering the hardware down and up.**

On the way down the subsystem is brought to rest, and the PHY's trained values are read back; then
the power goes, and with it everything that controller and PHY hold.  Turning the power on makes any
hardware sound again, whatever state it was in, and the way up installs the point anew.

Main definitions:

* `Reclock.Sequences.restored` — what the PHY is programmed with on the way up;
* `Reclock.Sequences.reload` — the part of the way up that programs controller and PHY anew;
* `Reclock.Hardware.valuesOf` — the values that the registers of a program hold;
* `Reclock.Hardware.Off`, `Awake`, `Unheld` — **a subsystem that is off**, and clocks, resets and
  calibration of one that runs.

Main results:

* `Reclock.Hardware.Ready.serves_quietDown`, `serves_readTrained`, `completes_powerOff` — the way
  down, on ready hardware;
* `Reclock.Hardware.ensures_sound_powerUp` — **what comes up is sound**, if the way up ends well;
* `Reclock.Hardware.Ready.serves_reload` — controller and PHY are programmed anew;
* `Reclock.Hardware.Unpinned.completes_powerUp` — **the way up installs the point completely**.
-/

import Reclock.Proofs.Installation
import Reclock.Transition.Retention

set_option relaxedAutoImplicit false
set_option autoImplicit false

namespace Reclock

/-! ### Footprints -/

namespace Sequences

open Procedure Sequence

variable {set : Register → Prop} {config : Config}

theorem within_quietDown (hports : ∀ port, set (Ddrc.pctrl port))
    (hself : ∀ r ∈ selfRefreshControls, set r) (hdbg1 : set Ddrc.dbg1) (hlow : set Phy.lpCtrl) :
    (quietDown config).Within (Access.Writes set) :=
  within_bind (within_disablePorts hports) fun _ => within_bind (within_enterSelfRefresh hself)
    fun _ => within_bind (within_halt hdbg1) fun _ => within_bind (within_modify hlow _)
      fun _ => within_wait _ _

theorem within_readTrained {timings : PointTimings} (howner : set Phy.busOwner) :
    (readTrained timings).Within (Access.Writes set) :=
  within_withBus howner (within_collect fun _ _ => ⟨trivial, fun _ => trivial⟩)

theorem within_powerOff (hgate : set Clock.dramGate) (hdown : set Power.downRequest)
    (hreset : set Reset.control) : (powerOff config).Within (Access.Writes set) :=
  within_bind (within_write hgate _) fun _ => within_bind (within_modify hdown _) fun _ =>
    within_bind (within_wait _ _) fun _ => within_modify hreset _

theorem within_powerOn {point : FrequencyPoint} (hup : set Power.upRequest)
    (hreset : set Reset.control) (hgate : set Clock.dramGate)
    (hclock : ∀ r ∈ clockControls, set r) : (powerOn config point).Within (Access.Writes set) := by
  refine within_bind (within_modify hup _) fun _ => within_bind (within_wait _ _) fun _ => ?_
  refine within_bind (within_modify hreset _) fun _ => within_bind (within_modify hreset _)
    fun _ => ?_
  refine within_bind (within_write hgate _) fun _ => within_bind (within_switchClock hclock)
    fun _ => ?_
  exact within_bind (within_modify hreset _) fun _ => within_wait _ _

/-- A program with other values writes no more registers than before. -/
theorem mem_registers_of_zipWith {w : Window} {program : RegisterProgram} {values : List UInt32}
    {r : Register} (h : r ∈ RegisterProgram.registers w
      (program.zipWith (fun entry value => ⟨entry.offset, value⟩) values)) :
    r ∈ program.registers w := by
  induction program generalizing values with
  | nil => exact h
  | cons entry program ih =>
      cases values with
      | nil => cases h
      | cons value values =>
          rcases List.mem_cons.1 h with rfl | h
          · exact List.mem_cons_self ..
          · exact List.mem_cons_of_mem _ (ih h)

/-- Restored values go to the registers that they come from. -/
theorem mem_registers_of_trainedProgram {timings : PointTimings} {trained : Option (List UInt32)}
    {r : Register} (h : r ∈ (trainedProgram timings trained).registers .phy) :
    r ∈ timings.phyTrained.registers .phy := by
  cases trained with
  | none => exact h
  | some values => exact mem_registers_of_zipWith h

/-- What the PHY is programmed with on the way up. -/
def restored (timings : PointTimings) (trained : Option (List UInt32)) : RegisterProgram :=
  timings.phyInit ++ trainedProgram timings trained ++ timings.phyEngine

theorem mem_registers_of_restored {timings : PointTimings} {trained : Option (List UInt32)}
    {r : Register} (h : r ∈ (restored timings trained).registers .phy) : r ∈ timings.registers := by
  simp only [restored, RegisterProgram.registers, List.map_append, List.mem_append] at h
  simp only [PointTimings.registers, List.mem_append]
  rcases h with (h | h) | h
  · exact .inl (.inl (.inr h))
  · exact .inl (.inr (mem_registers_of_trainedProgram h))
  · exact .inr h

theorem loadPhy_eq (timings : PointTimings) (trained : Option (List UInt32)) :
    loadPhy timings trained = withBus (applyProgram .phy (restored timings trained)) := by
  rw [restored, Hardware.applyProgram_append, Hardware.applyProgram_append, bind_assoc]
  rfl

/-- The named registers that the way up writes. -/
def wakeControls : List Register :=
  clockControls ++ selfRefreshControls ++ selectorControls ++
    [Power.upRequest, Reset.control, Clock.dramGate, Ddrc.dbg1, Phy.busOwner, Phy.lpCtrl]

theorem within_powerUp {point : FrequencyPoint} {timings : PointTimings}
    {trained : Option (List UInt32)} (hports : ∀ port, set (Ddrc.pctrl port))
    (hcontrols : ∀ r ∈ wakeControls, set r) (htimings : ∀ r ∈ timings.registers, set r) :
    (powerUp config point timings trained).Within (Access.Writes set) := by
  simp only [wakeControls, List.forall_mem_append] at hcontrols
  obtain ⟨⟨⟨hclock, hself⟩, hselectors⟩, hothers⟩ := hcontrols
  have hswctl : set Ddrc.swctl := hself _ (by decide)
  have hcontroller : ∀ r ∈ timings.controller.registers .ddrc, set r := fun r hr =>
    htimings r (by simp [PointTimings.registers, hr])
  refine within_bind (within_powerOn (hothers _ (by decide)) (hothers _ (by decide))
    (hothers _ (by decide)) hclock) fun _ => ?_
  refine within_bind (within_loadController hswctl hcontroller) fun _ => ?_
  refine within_bind (within_selectFrequency hselectors) fun _ => ?_
  refine within_bind (within_enterSelfRefresh hself) fun _ => ?_
  rw [loadPhy_eq]
  refine within_bind (within_withBus (hothers _ (by decide)) (within_applyProgram fun r hr =>
    htimings r (mem_registers_of_restored hr))) fun _ => ?_
  refine within_bind (within_modify (hothers _ (by decide)) _) fun _ => ?_
  refine within_bind (within_wait _ _) fun _ => ?_
  refine within_bind (within_dfiInit hswctl (hselectors _ (by decide))) fun _ => ?_
  refine within_bind (within_exitSelfRefresh hself) fun _ => ?_
  exact within_bind (within_resume (hothers _ (by decide))) fun _ => within_enablePorts hports

/-- The part of the way up that programs controller and PHY anew. -/
def reload (config : Config) (index : FrequencyIndex) (timings : PointTimings)
    (trained : Option (List UInt32)) : Timed Unit := do
  loadController config timings
  selectFrequency config index
  enterSelfRefresh config
  loadPhy timings trained
  clearBits Phy.lpCtrl Phy.holdRequest
  wait config Phy.lpStat (allClear Phy.holdActive)

theorem powerUp_eq (config : Config) (point : FrequencyPoint) (timings : PointTimings)
    (trained : Option (List UInt32)) :
    powerUp config point timings trained = (do
      powerOn config point
      reload config point.index timings trained
      Hardware.conclude config true) := by
  simp only [powerUp, reload, bind_assoc]
  rfl

/-- The registers of the DRAM's power domain that the way up writes. -/
def IsReloaded (r : Register) : Prop :=
  r.window.inDramDomain = true ∧ r.Harmless ∧ r ≠ Phy.resetStat

theorem not_mem_of_isReloaded {rs : List Register}
    (hrs : ∀ q ∈ rs, q.window.inDramDomain = true → q = Phy.resetStat) :
    ∀ r, IsReloaded r → r ∉ rs :=
  fun r hr hmem => hr.2.2 (hrs r hmem hr.1)

theorem within_reload {index : FrequencyIndex} {timings : PointTimings}
    {trained : Option (List UInt32)} (hclear : timings.KeepsClear) :
    (reload config index timings trained).Within (Access.Writes IsReloaded) := by
  have hprogram : ∀ r ∈ timings.registers, IsReloaded r := by
    refine fun r hr => ⟨PointTimings.inDramDomain_of_mem hr,
      Register.harmless_of_not_reserved (hclear r hr) (PointTimings.inDramDomain_of_mem hr), ?_⟩
    rintro rfl
    exact hclear _ hr (Register.mem_reserved_of_reachable (by decide))
  have hcontrols : ∀ r ∈ selectorControls ++ selfRefreshControls ++ [Phy.busOwner, Phy.lpCtrl],
      IsReloaded r := by
    unfold IsReloaded
    decide
  simp only [List.forall_mem_append] at hcontrols
  obtain ⟨⟨hselectors, hself⟩, hphy⟩ := hcontrols
  refine within_bind (within_loadController (hself _ (by decide)) fun r hr => hprogram r (by
    simp [PointTimings.registers, hr])) fun _ => ?_
  refine within_bind (within_selectFrequency hselectors) fun _ => ?_
  refine within_bind (within_enterSelfRefresh hself) fun _ => ?_
  rw [loadPhy_eq]
  refine within_bind (within_withBus (hphy _ (by decide)) (within_applyProgram fun r hr =>
    hprogram r (mem_registers_of_restored hr))) fun _ => ?_
  exact within_bind (within_modify (hphy _ (by decide)) _) fun _ => within_wait _ _

/-- The way up once the power has been asked for. -/
def comeBack (config : Config) (point : FrequencyPoint) (timings : PointTimings)
    (trained : Option (List UInt32)) : Timed Unit := do
  wait config Power.upRequest (allClear Power.dramDomain)
  setBits Reset.control Reset.allResets
  setBits Reset.control Reset.phyPowerOk
  write Clock.dramGate Clock.gateOn
  switchClock config point
  clearBits Reset.control Reset.allResets
  wait config Phy.resetStat (anySet Phy.coldResetDone)
  reload config point.index timings trained
  Hardware.conclude config true

/-- The way up begins with the request for power. -/
theorem powerUp_eq_comeBack (config : Config) (point : FrequencyPoint) (timings : PointTimings)
    (trained : Option (List UInt32)) :
    powerUp config point timings trained = (do
      setBits Power.upRequest Power.dramDomain
      comeBack config point timings trained) := by
  simp only [powerUp_eq, powerOn, comeBack, bind_assoc]

theorem within_comeBack {point : FrequencyPoint} {timings : PointTimings}
    {trained : Option (List UInt32)} (hclear : timings.KeepsClear) :
    (comeBack config point timings trained).Within (Access.Writes Register.Harmless) := by
  refine within_bind (within_wait _ _) fun _ => ?_
  refine within_bind (within_modify (by decide) _) fun _ => ?_
  refine within_bind (within_modify (by decide) _) fun _ => ?_
  refine within_bind (within_write (by decide) _) fun _ => ?_
  refine within_bind (within_switchClock Hardware.harmless_clockControls) fun _ => ?_
  refine within_bind (within_modify (by decide) _) fun _ => ?_
  refine within_bind (within_wait _ _) fun _ => ?_
  refine within_bind ((within_reload hclear).mono (Access.Writes.mono fun _ hr => hr.2.1))
    fun _ => ?_
  exact Hardware.within_conclude.mono (Access.Writes.mono Hardware.harmless_of_isConclusion)

end Sequences

namespace Hardware

open Procedure Sequences

variable {h h' : Hardware} {config : Config}

/-! ### Coming to rest -/

/-- The registers that are written on the way to rest. -/
def IsQuieting (r : Register) : Prop :=
  r ∈ selfRefreshControls ++ [Ddrc.dbg1, Phy.lpCtrl] ∨ IsPort r

theorem reserved_of_isQuieting {r : Register} (hr : IsQuieting r) : r ∈ Register.reserved := by
  rcases hr with hr | ⟨port, rfl⟩
  · have hall : ∀ r ∈ selfRefreshControls ++ [Ddrc.dbg1, Phy.lpCtrl], r ∈ Register.reserved := by
      decide +kernel
    exact hall r hr
  · exact Ddrc.pctrl_mem_reserved port

theorem harmless_of_isQuieting : ∀ r, IsQuieting r → r.Harmless := by
  rintro r (hr | hr)
  · have hall : ∀ r ∈ selfRefreshControls ++ [Ddrc.dbg1, Phy.lpCtrl], r.Harmless := by decide
    exact hall r hr
  · exact harmless_of_isPort r hr

/-- The PHY's calibration is held, or let go, and its status follows. -/
theorem Ready.serves_modify_lpCtrl (hready : h.Ready) (f : UInt32 → UInt32) :
    h.Serves (Sequence.modify Phy.lpCtrl f : Timed Unit) (· = Phy.lpCtrl) fun _ h' =>
      h'.value Phy.lpCtrl = f (h.value Phy.lpCtrl) ∧
        h'.value Phy.lpStat = f (h.value Phy.lpCtrl) &&& Phy.holdActive := by
  refine hready.serves_modify (by decide) fun _ =>
    ⟨_, effect_lpCtrl _ _, ?_, value_store_self ..⟩
  rw [value_store_of_ne (by decide), value_store_self]

theorem Ready.serves_quietDown (hready : h.Ready) (hlimit : 0 < config.pollLimit.toNat) :
    h.Serves (quietDown config) IsQuieting fun _ _ => True := by
  have hself : ∀ r ∈ selfRefreshControls, IsQuieting r := fun r hr =>
    .inl (List.mem_append_left _ hr)
  have hlisted : ∀ r ∈ [Ddrc.dbg1, Phy.lpCtrl], IsQuieting r := fun r hr =>
    .inl (List.mem_append_right _ hr)
  refine hready.serves (within_quietDown (fun port => .inr ⟨port, rfl⟩) hself
    (hlisted _ (by decide)) (hlisted _ (by decide))) harmless_of_isQuieting ?_
  refine (hready.serves_disablePorts hlimit).andThen fun _ h₁ hready₁ _ _ => ?_
  refine (hready₁.serves_enterSelfRefresh hlimit).andThen fun _ h₂ hready₂ _ _ => ?_
  refine (hready₂.serves_halt hlimit).andThen fun _ h₃ hready₃ _ _ => ?_
  refine (hready₃.serves_modify_lpCtrl _).andThen fun _ h₄ hready₄ _ hstatus₄ => ?_
  refine (hready₄.serves_wait hlimit (by decide) (by decide) ?_).mono fun _ _ _ => trivial
  have hheld : h₄.value Phy.lpStat = Phy.holdActive := hstatus₄.2.trans (Word.set_and _ _)
  rw [hheld]
  rfl

/-! ### Reading the trained values -/

/-- The values that a program's registers hold, in its order. -/
def valuesOf (h : Hardware) (w : Window) (program : RegisterProgram) : List UInt32 :=
  program.map fun entry => h.value ⟨w, entry.offset⟩

theorem completes_collect {w : Window} {program : RegisterProgram}
    (hopen : ∀ r ∈ program.registers w, h.Open r ∧ r ≠ Ddrc.mrstat) :
    (collect program fun entry => Sequence.read ⟨w, entry.offset⟩ : Timed (List UInt32)).Completes
      RegisterFile.answer h fun values h' => values = h.valuesOf w program ∧ h' = h := by
  induction program with
  | nil => exact completes_of_run rfl ⟨rfl, rfl⟩
  | cons entry program ih =>
      simp only [RegisterProgram.registers, List.map_cons, List.forall_mem_cons] at hopen
      refine (hopen.1.1.completes_read hopen.1.2).andThen fun v h₁ hread => ?_
      obtain ⟨rfl, rfl⟩ := hread
      refine (ih hopen.2).andThen fun values h₂ hrest => ?_
      obtain ⟨rfl, rfl⟩ := hrest
      exact completes_of_run rfl ⟨rfl, rfl⟩

/-- **The trained values are what the PHY holds.** -/
theorem Ready.serves_readTrained (hready : h.Ready) {timings : PointTimings}
    (hclear : timings.KeepsClear) :
    h.Serves (readTrained timings) (· = Phy.busOwner) fun values _ =>
      values = h.valuesOf .phy timings.phyTrained := by
  refine hready.serves (within_readTrained rfl) (by rintro r rfl; decide) ?_
  obtain ⟨-, -, hreserved, -⟩ := hclear.parts
  refine (hready.completes_withBus
    (P := fun values _ => values = h.valuesOf .phy timings.phyTrained)
    fun h₁ hready₁ hkept₁ howner₁ => ?_).mono fun values h' hend => ?_
  · have hopen : ∀ r ∈ timings.phyTrained.registers .phy, h₁.Open r ∧ r ≠ Ddrc.mrstat := by
      intro r hr
      refine ⟨hready₁.open (.inr howner₁), ?_⟩
      rintro rfl
      exact hreserved _ hr (Register.mem_reserved_of_named (by decide))
    refine (completes_collect hopen).mono fun values h₂ hend => ?_
    obtain ⟨rfl, rfl⟩ := hend
    refine ⟨hready₁, List.map_congr_left fun entry hentry => ?_⟩
    have hmem : (⟨.phy, entry.offset⟩ : Register) ∈ timings.phyTrained.registers .phy :=
      List.mem_map_of_mem hentry
    refine hkept₁.unwritten (Register.not_status_of_not_reserved (hreserved _ hmem) rfl) ?_
    intro heq
    exact hreserved _ hmem (heq ▸ Register.mem_reserved_of_reachable (by decide))
  · obtain ⟨-, -, h₂, hvalues, -⟩ := hend
    exact hvalues

/-! ### Power and resets -/

/-- **The subsystem is off**: its clocks are gated, power and power-ok are gone, and with the power
all that its registers held. -/
structure Off (h : Hardware) : Prop where
  unpowered : h.powered = false
  gated : h.value Clock.dramGate = 0
  powerOk : h.value Reset.control &&& Reset.phyPowerOk = 0
  lost : ∀ r : Register, r.window.inDramDomain = true → h.value r = 0

/-- **Clocks and resets let the subsystem run**: the clocks are on, power-ok is raised, the resets
are released, and the PHY has come out of its cold reset. -/
structure Awake (h : Hardware) : Prop where
  clocks : h.value Clock.dramGate = Clock.gateOn
  resets : h.value Reset.control &&& (Reset.phyPowerOk ||| Reset.allResets) = Reset.phyPowerOk
  phy : h.value Phy.resetStat = Phy.coldResetDone

theorem Awake.of_values {h' : Hardware} (hawake : h.Awake)
    (hsame : ∀ q ∈ [Clock.dramGate, Reset.control, Phy.resetStat], h'.value q = h.value q) :
    h'.Awake := by
  refine ⟨?_, ?_, ?_⟩
  · rw [hsame _ (by decide)]
    exact hawake.clocks
  · rw [hsame _ (by decide)]
    exact hawake.resets
  · rw [hsame _ (by decide)]
    exact hawake.phy

theorem Awake.kept {h' : Hardware} {set : Register → Prop} (hawake : h.Awake)
    (hkept : Kept set h h')
    (hset : ∀ r, set r → r ∉ [Clock.dramGate, Reset.control, Phy.resetStat]) : h'.Awake :=
  hawake.of_values fun _ hq => hkept.apart (by decide) hset hq

/-- The PHY's calibration is not held. -/
structure Unheld (h : Hardware) : Prop where
  request : h.value Phy.lpCtrl &&& Phy.holdRequest = 0
  status : h.value Phy.lpStat &&& Phy.holdActive = 0

theorem Unheld.of_values {h' : Hardware} (hunheld : h.Unheld)
    (hsame : ∀ q ∈ [Phy.lpCtrl, Phy.lpStat], h'.value q = h.value q) : h'.Unheld := by
  refine ⟨?_, ?_⟩
  · rw [hsame _ (by decide)]
    exact hunheld.request
  · rw [hsame _ (by decide)]
    exact hunheld.status

theorem Unheld.kept {h' : Hardware} {set : Register → Prop} (hunheld : h.Unheld)
    (hkept : Kept set h h') (hset : ∀ r, set r → r ∉ [Phy.lpCtrl, Phy.lpStat]) : h'.Unheld :=
  hunheld.of_values fun _ hq => hkept.apart (by decide) hset hq

theorem value_updateResetStat_of_unpowered (hoff : h.powered = false) (q : Register) :
    h.updateResetStat.value q = if q = Phy.resetStat then 0 else h.value q := by
  rw [updateResetStat, value_store]
  simp [hoff]

/-- The registers of the power domain are lost with the power, and no others. -/
theorem value_powerOff (h : Hardware) (q : Register) :
    h.powerOff.value q = if q.window.inDramDomain then 0 else h.value q := by
  have hdropped : ({ h with powered := false }.dropDomain : Hardware).value q =
      if q.window.inDramDomain then 0 else h.value q := value_dropDomain _ q
  rw [powerOff, value_updateResetStat_of_unpowered rfl, hdropped]
  split
  case isTrue heq =>
    subst heq
    rfl
  case isFalse => rfl

/-- Turning the power on changes no register outside the power domain. -/
theorem value_powerOn (h : Hardware) {q : Register} (hq : q.window.inDramDomain = false) :
    (h.powerOn true).value q = h.value q := by
  have hne : ∀ r : Register, r.window.inDramDomain = true → q ≠ r := by
    rintro r hr rfl
    cases hq.symm.trans hr
  have hdropped : ({ h.dropDomain with powered := true, busyReads := 0 } : Hardware).value q =
      h.value q := by
    refine (value_dropDomain h q).trans (if_neg ?_)
    rw [hq]
    exact Bool.false_ne_true
  simp only [powerOn, wakeRetained, updateResetStat, value_store, if_true, hne Ddrc.stat rfl,
    hne Ddrc.pwrctl rfl, hne Ddrc.dbgcam rfl, hne Ddrc.swctl rfl, hne Ddrc.swstat rfl,
    hne Phy.busOwner rfl, hne Phy.resetStat rfl, if_false]
  exact hdropped

theorem effect_downRequest (h : Hardware) (v : UInt32) :
    h.effect Power.downRequest v = h.requestDown v :=
  rfl

/-- **What outlasts a request for the power**: the pins, and what lies outside the power domain but
for the request itself. -/
theorem outlasts_request {r : Register} {v : UInt32} (hr : r ∈ Register.requests)
    (heffect : h.effect r v = .ok h') : h'.pins = h.pins ∧
      ∀ q : Register, q.window.inDramDomain = false → q ≠ r → h'.value q = h.value q := by
  simp only [Register.requests, List.mem_cons, List.not_mem_nil, or_false] at hr
  rcases hr with rfl | rfl
  · rw [effect_downRequest, requestDown] at heffect
    repeat' split at heffect
    · cases heffect
      exact ⟨rfl, fun q _ hq => value_store_of_ne hq _ _⟩
    · cases heffect
    · cases heffect
      refine ⟨rfl, fun q hdomain hq => ?_⟩
      rw [value_store_of_ne hq, value_powerOff, hdomain]
      rfl
  · cases (effect_upRequest h v).symm.trans heffect
    unfold requestUp
    split
    · exact ⟨rfl, fun q _ hq => value_store_of_ne hq _ _⟩
    · exact ⟨rfl, fun q hdomain hq => (value_store_of_ne hq _ _).trans (value_powerOn h hdomain)⟩

/-- No access changes the pins, and none changes a register outside the power domain that shows no
status and is not written. -/
theorem outlasts_answer {a : Access} {reply : a.Reply}
    (hanswer : RegisterFile.answer a h = .ok reply h') : h'.pins = h.pins ∧
      ∀ q : Register, q.window.inDramDomain = false → q ∉ Register.statuses →
        Access.Writes (· ≠ q) a → h'.value q = h.value q := by
  have hnone : ∀ r, False → r ∉ Register.requests := fun _ => False.elim
  cases a with
  | read r =>
      have hkept : Kept (fun _ => False) h h' :=
        @kept_answer _ _ _ (.read r) reply trivial hnone hanswer
      exact ⟨hkept.pins, fun q _ hstatus _ => hkept.unwritten hstatus id⟩
  | write r v =>
      have heffect := effect_of_answer hanswer
      by_cases hrequest : r ∈ Register.requests
      · obtain ⟨hpins, hvalues⟩ := outlasts_request hrequest heffect
        exact ⟨hpins, fun q hdomain _ hq => hvalues q hdomain (Ne.symm hq)⟩
      · have hkept := @kept_effect _ _ r v (· = r) rfl hrequest heffect
        exact ⟨hkept.pins, fun q _ hstatus hq => hkept.unwritten hstatus (Ne.symm hq)⟩

/-- **Hardware without pins stays so**, whatever is done to it. -/
theorem Unpinned.ensures {ε α : Type} (hunpinned : h.Unpinned) (p : Sequence ε α) :
    p.Ensures RegisterFile.answer h fun _ h' => h'.Unpinned := by
  have hwithin : p.Within fun _ => True := by
    induction p with
    | done a => exact trivial
    | fail e => exact trivial
    | act a next ih => exact ⟨trivial, ih⟩
  refine hwithin.preserves (fun a h₁ reply h₂ _ hanswer hunpinned₁ r => ?_) hunpinned
  rw [(outlasts_answer hanswer).1]
  exact hunpinned₁ r

theorem Unpinned.open_outside {r : Register} (hunpinned : h.Unpinned)
    (hr : r.window.inDramDomain = false) : h.Open r where
  unpinned := hunpinned r
  free := by
    have hphy : r.window ≠ .phy := by
      intro heq
      rw [heq] at hr
      cases hr
    simp [busDenied, hphy]
  powered := by simp [hr]

theorem requestDown_of_gated {v : UInt32} (hv : v &&& Power.dramDomain ≠ 0)
    (hgate : h.value Clock.dramGate = 0) :
    h.requestDown v = .ok (h.powerOff.store Power.downRequest 0) := by
  rw [requestDown, if_neg hv, if_neg (not_not.2 hgate)]

/-- Power-ok is neither dropped with the power on nor raised with it off. -/
theorem writeReset_of_allowed {v : UInt32}
    (hdrop : h.value Reset.control &&& ~~~v &&& Reset.phyPowerOk = 0 ∨ h.powered = false)
    (hraise : ~~~h.value Reset.control &&& v &&& Reset.phyPowerOk = 0 ∨ h.powered = true) :
    h.writeReset v = .ok (h.store Reset.control v).updateResetStat := by
  unfold writeReset
  dsimp only
  rw [if_neg, if_neg]
  · rintro ⟨hraised, hoff⟩
    rcases hraise with hraise | hraise
    · exact hraised hraise
    · simp [hraise] at hoff
  · rintro ⟨hdropped, hon⟩
    rcases hdrop with hdrop | hdrop
    · exact hdropped hdrop
    · simp [hdrop] at hon

/-- **The power goes**, and no pin comes. -/
theorem Unpinned.completes_powerOff (hunpinned : h.Unpinned)
    (hlimit : 0 < config.pollLimit.toNat) :
    (Sequences.powerOff config).Completes RegisterFile.answer h fun _ h' =>
      h'.Off ∧ h'.Unpinned ∧ (h.StandsBy → h'.StandsBy) := by
  refine ((hunpinned.open_outside rfl).completes_write (P := fun h' => h'.Unpinned ∧
    h'.value Clock.dramGate = 0 ∧ ∀ q, q ≠ Clock.dramGate → h'.value q = h.value q) fun _ =>
      ⟨_, effect_of_not_reactive (by decide) _ _, hunpinned, value_store_self ..,
        fun q hq => value_store_of_ne hq _ _⟩).andThen fun _ h₁ hend₁ => ?_
  obtain ⟨hunpinned₁, hgate₁, hkept₁⟩ := hend₁
  refine ((hunpinned₁.open_outside rfl).completes_modify (P := fun h' => h'.Unpinned ∧
    h'.powered = false ∧ h'.value Power.downRequest = 0 ∧ ∀ q, q ≠ Power.downRequest →
      h'.value q = if q.window.inDramDomain then 0 else h₁.value q) (by decide)
    fun writes => ?_).andThen fun _ h₂ hend₂ => ?_
  · exact ⟨_, requestDown_of_gated (Word.set_and_ne_zero _ (by decide)) hgate₁, hunpinned₁, rfl,
      value_store_self .., fun q hq => (value_store_of_ne hq _ _).trans (value_powerOff _ q)⟩
  obtain ⟨hunpinned₂, hoff₂, hrequest₂, hkept₂⟩ := hend₂
  refine ((hunpinned₂.open_outside rfl).completes_wait hlimit (by decide)
    (by rw [hrequest₂]; rfl)).andThen fun _ h₃ hend₃ => ?_
  subst hend₃
  refine (hunpinned₂.open_outside rfl).completes_modify (by decide) fun writes => ?_
  refine ⟨_, writeReset_of_allowed (.inr hoff₂) (.inl ?_), ?_⟩
  · rw [UInt32.and_assoc, Word.clear_and, UInt32.and_zero]
  generalize hcontrol : h₃.value Reset.control &&& ~~~Reset.phyPowerOk = control
  have hvalue : ∀ q, (({ h₃ with writes } : Hardware).store Reset.control
      control).updateResetStat.value q =
        if q = Phy.resetStat then 0 else if q = Reset.control then control else h₃.value q := by
    intro q
    rw [value_updateResetStat_of_unpowered (by exact hoff₂), value_store]
    rfl
  refine ⟨⟨hoff₂, ?_, ?_, fun q hq => ?_⟩, hunpinned₂, fun hstands => ?_⟩
  · rw [hvalue, if_neg (by decide), if_neg (by decide), hkept₂ _ (by decide)]
    exact hgate₁
  · rw [hvalue, if_neg (by decide), if_pos rfl, ← hcontrol, Word.clear_and]
  · have hdown : q ≠ Power.downRequest := by
      rintro rfl
      cases hq
    have hreset : q ≠ Reset.control := by
      rintro rfl
      cases hq
    rw [hvalue, if_neg hreset, hkept₂ q hdown, if_pos hq, ite_self]
  · refine hstands.of_values fun q hq => ?_
    have hall : ∀ q ∈ Clock.pllControl :: requestControls, q ≠ Phy.resetStat ∧
        q ≠ Reset.control ∧ q ≠ Clock.dramGate ∧ ¬ q.window.inDramDomain = true := by
      decide
    obtain ⟨hstatus, hcontrol, hgate, hdomain⟩ := hall q hq
    rw [hvalue, if_neg hstatus, if_neg hcontrol]
    -- The request to power down is over, as it was before it was made.
    by_cases hdown : q = Power.downRequest
    · rw [hdown, hrequest₂, hstands.requests _ (by decide)]
    · rw [hkept₂ q hdown, if_neg hdomain, hkept₁ q hgate]

/-! ### Powering on -/

/-- **Turning the power on makes any hardware sound.** -/
theorem sound_powerOn (h : Hardware) : (h.powerOn true).Sound := by
  have hdropped : ∀ q : Register, q.window.inDramDomain = true →
      ({ h.dropDomain with powered := true, busyReads := 0 } : Hardware).value q = 0 := by
    intro q hq
    exact (value_dropDomain h q).trans (if_pos hq)
  refine ⟨rfl, ?_, ?_, ?_, ?_, Nat.zero_le _⟩ <;>
    simp +decide [powerOn, wakeRetained, updateResetStat, value_store]
  · exact hdropped _ rfl
  · exact hdropped _ rfl
  · exact hdropped _ rfl

/-- The request for power is carried out, whatever else is asked for with it. -/
theorem effect_upRequest_of_set {v : UInt32} (hv : v &&& Power.dramDomain ≠ 0) (h : Hardware) :
    h.effect Power.upRequest v = .ok ((h.powerOn true).store Power.upRequest 0) := by
  rw [effect_upRequest, requestUp, if_neg hv]

theorem sound_requestUp (h : Hardware) : ((h.powerOn true).store Power.upRequest 0).Sound := by
  have hsound := sound_powerOn h
  refine ⟨hsound.powered, ?_, ?_, ?_, ?_, hsound.busyReads⟩
  · exact (value_store_of_ne (by decide) ..).trans hsound.portsIdle
  · exact (value_store_of_ne (by decide) ..).trans hsound.modeStatus
  · exact (value_store_of_ne (by decide) ..).trans hsound.drained
  · exact (value_store_of_ne (by decide) ..).trans hsound.calibrated

/-- Of what lies outside the power domain, the power coming on changes only the request for it. -/
theorem StandsBy.requestUp (hstands : h.StandsBy) :
    ((h.powerOn true).store Power.upRequest 0).StandsBy := by
  refine hstands.of_values fun q hq => ?_
  have hall : ∀ q ∈ Clock.pllControl :: requestControls, q.window.inDramDomain = false := by
    decide
  rw [value_store]
  split
  case isTrue heq => rw [heq, hstands.requests _ (by decide)]
  case isFalse => exact value_powerOn h (hall q hq)

/-- Whatever state the hardware was in, and whatever its reads are pinned to, it is sound after the
way up. -/
theorem ensures_sound_powerUp {point : FrequencyPoint} {timings : PointTimings}
    {trained : Option (List UInt32)} (hclear : timings.KeepsClear) (h : Hardware) :
    (powerUp config point timings trained).Ensures RegisterFile.answer h fun r h' =>
      r = .ok () → h'.Sound := by
  rw [powerUp_eq_comeBack]
  -- Pins may answer every read, so that only the writes can be relied on.
  have hasked : (Sequence.setBits Power.upRequest Power.dramDomain : Timed Unit).Ensures
      RegisterFile.answer h fun _ h₁ => h₁.Sound := by
    refine ensures_modify (fun h₁ v h₂ heffect => ?_) h
    rw [effect_upRequest_of_set (Word.set_and_ne_zero v (by decide)) h₁] at heffect
    cases heffect
    exact sound_requestUp h₁
  refine hasked.andThen (fun _ h₁ hsound => ?_) fun _ _ _ => nofun
  refine ((within_comeBack hclear).kept fun r hr => hr.not_mem_requests).mono
    fun _ h' hkept _ => ?_
  exact hkept.sound (fun _ hr => hr) hsound

/-! ### The way up -/

/-- Whether the reset control lets the PHY come out of its cold reset. -/
def releasesPhy (v : UInt32) : Bool :=
  v &&& Reset.phyPowerOk != 0 && v &&& Reset.phyReset == 0

/-- With power-ok raised, the PHY comes out of its reset with the others. -/
theorem releasesPhy_released (v : UInt32) :
    releasesPhy ((v ||| Reset.phyPowerOk) &&& ~~~Reset.allResets) = true := by
  have hreset : ~~~Reset.allResets &&& Reset.phyReset = 0 := by decide
  rw [releasesPhy, Word.clear_and_apart _ (by decide), Word.set_and, UInt32.and_assoc, hreset,
    UInt32.and_zero]
  decide

/-- Of the bits of the reset control only power-ok is left. -/
theorem released_and (v : UInt32) : ((v ||| Reset.phyPowerOk) &&& ~~~Reset.allResets) &&&
    (Reset.phyPowerOk ||| Reset.allResets) = Reset.phyPowerOk := by
  have hkept : ~~~Reset.allResets &&& (Reset.phyPowerOk ||| Reset.allResets) =
      Reset.phyPowerOk := by
    decide
  rw [UInt32.and_assoc, hkept, Word.set_and]

/-- With the power on, the reset control may be changed if power-ok is not dropped. -/
theorem Ready.serves_modify_reset {f : UInt32 → UInt32} (hready : h.Ready)
    (hkeeps : ∀ v, v &&& ~~~f v &&& Reset.phyPowerOk = 0) :
    h.Serves (Sequence.modify Reset.control f : Timed Unit) (· = Reset.control) fun _ h' =>
      h'.value Reset.control = f (h.value Reset.control) ∧
        h'.value Phy.resetStat =
          if releasesPhy (f (h.value Reset.control)) then Phy.coldResetDone else 0 := by
  refine hready.serves_modify (by decide) fun writes => ?_
  refine ⟨_, writeReset_of_allowed (.inl (hkeeps _)) (.inr hready.powered), ?_, ?_⟩
  · rw [updateResetStat, value_store_of_ne (by decide), value_store_self]
  · rw [updateResetStat, value_store_self, value_store_self]
    have hpowered : ({ h with writes } : Hardware).powered = true := hready.powered
    simp only [store, hpowered, Bool.true_and]
    rfl

/-- **Power, resets and clock come back.** -/
theorem Unpinned.completes_powerOn (hunpinned : h.Unpinned) (hlimit : 0 < config.pollLimit.toNat)
    (point : FrequencyPoint) :
    (Sequences.powerOn config point).Completes RegisterFile.answer h fun _ h' =>
      h'.Ready ∧ h'.ClockedBy point.bypass ∧ h'.Awake ∧ (h.StandsBy → h'.StandsBy) := by
  refine ((hunpinned.open_outside rfl).completes_modify (P := fun h' => h'.Ready ∧
    h'.value Power.upRequest = 0 ∧ (h.StandsBy → h'.StandsBy)) (by decide) fun writes => ?_).andThen
    fun _ h₁ hend₁ => ?_
  · have hrecorded : h.StandsBy → ({ h with writes } : Hardware).StandsBy :=
      fun hstands => hstands.of_values fun _ _ => rfl
    exact ⟨_, effect_upRequest_of_set (Word.set_and_ne_zero _ (by decide)) _,
      ⟨sound_requestUp _, hunpinned⟩, value_store_self ..,
        fun hstands => (hrecorded hstands).requestUp⟩
  obtain ⟨hready₁, hrequest₁, hstands₁⟩ := hend₁
  refine (hready₁.serves_wait hlimit (by decide) (by decide) (by rw [hrequest₁]; rfl)).andThen
    fun _ h₂ hend₂ => ?_
  subst hend₂
  refine (hready₁.serves_modify_reset fun v => ?_).andThen fun _ h₃ hready₃ hkept₃ _ => ?_
  · rw [Word.lost_by_set, UInt32.zero_and]
  refine (hready₃.serves_modify_reset fun v => ?_).andThen
    fun _ h₄ hready₄ hkept₄ hcontrol₄ => ?_
  · rw [Word.lost_by_set, UInt32.zero_and]
  refine (hready₄.serves_write_plain (by decide) (by decide) _).andThen
    fun _ h₅ hready₅ hkept₅ hgate₅ => ?_
  refine (hready₅.serves_switchClock hlimit point).andThen
    fun _ h₆ hready₆ hkept₆ hclocked₆ => ?_
  refine (hready₆.serves_modify_reset fun v => ?_).andThen
    fun _ h₇ hready₇ hkept₇ hcontrol₇ => ?_
  · rw [Word.lost_by_clear, UInt32.and_assoc]
    exact UInt32.and_zero
  -- Power-ok has been raised, and only the resets have been released since.
  have hcontrol₆ : h₆.value Reset.control = h₃.value Reset.control ||| Reset.phyPowerOk := by
    rw [hkept₆.unwritten (by decide) (by decide), hkept₅.unwritten (by decide) (by decide)]
    exact hcontrol₄.1
  have hdone : h₇.value Phy.resetStat = Phy.coldResetDone := by
    rw [hcontrol₇.2, hcontrol₆]
    exact if_pos (releasesPhy_released _)
  refine (hready₇.serves_wait hlimit (by decide) (by decide) (by rw [hdone]; rfl)).mono
    fun _ h' hend => ?_
  subst hend
  refine ⟨hready₇, ?_, ⟨?_, ?_, hdone⟩, fun hstands => ?_⟩
  · rw [ClockedBy, hkept₇.unwritten (by decide) (by decide)]
    exact hclocked₆.1
  · rw [hkept₇.unwritten (by decide) (by decide), hkept₆.unwritten (by decide) (by decide)]
    exact hgate₅
  · rw [hcontrol₇.1, hcontrol₆]
    exact released_and _
  · have hstands₅ := (((hstands₁ hstands).kept hkept₃ (by rintro r rfl; decide)).kept hkept₄
      (by rintro r rfl; decide)).kept hkept₅ (by rintro r rfl; decide)
    exact (hstands₅.switchClock hkept₆ (hclocked₆.2 hstands₅.locked)).kept hkept₇
      (by rintro r rfl; decide)

theorem reserved_of_restored {timings : PointTimings} (hclear : timings.KeepsClear)
    (trained : Option (List UInt32)) :
    ∀ r ∈ timings.controller.registers .ddrc ++ (restored timings trained).registers .phy,
      r ∉ Register.reserved := by
  rw [List.forall_mem_append]
  exact ⟨hclear.parts.1, fun r hr => hclear r (mem_registers_of_restored hr)⟩

/-- **Controller and PHY are programmed anew**, with the trained values that are given. -/
theorem Ready.serves_reload (hready : h.Ready) (hlimit : 0 < config.pollLimit.toNat)
    {timings : PointTimings} (hclear : timings.KeepsClear) (index : FrequencyIndex)
    (trained : Option (List UInt32)) :
    h.Serves (reload config index timings trained) IsReloaded fun _ h' =>
      h'.Programmed index timings (restored timings trained) ∧ h'.Unheld := by
  obtain ⟨hcontroller, hphy⟩ := List.forall_mem_append.1 (reserved_of_restored hclear trained)
  refine hready.serves (within_reload hclear) (fun _ hr => hr.2.1) ?_
  refine (hready.serves_loadController hlimit hcontroller).andThen
    fun _ h₁ hready₁ _ hholds₁ => ?_
  refine (hready₁.serves_selectFrequency hlimit index).andThen
    fun _ h₂ hready₂ hkept₂ hselects₂ => ?_
  refine (hready₂.serves_enterSelfRefresh hlimit).andThen fun _ h₃ hready₃ hkept₃ _ => ?_
  rw [loadPhy_eq]
  refine (hready₃.serves_withBus_program hphy).andThen fun _ h₄ hready₄ hkept₄ hloaded₄ => ?_
  refine (hready₄.serves_modify_lpCtrl _).andThen fun _ h₅ hready₅ hkept₅ hstatus₅ => ?_
  have hreleased : h₅.value Phy.lpStat = 0 := hstatus₅.2.trans (Word.clear_and _ _)
  refine (hready₅.serves_wait hlimit (by decide) (by decide) (by rw [hreleased]; rfl)).mono
    fun _ h' hend => ?_
  subst hend
  -- The programs keep clear of what is written besides, and the two windows of each other.
  have hunloaded : ∀ q : Register, q.window ≠ .phy →
      ¬ (q = Phy.busOwner ∨ q ∈ (restored timings trained).registers .phy) := by
    rintro q hq (rfl | hmem)
    · exact hq rfl
    · exact hq (RegisterProgram.window_of_mem_registers hmem)
  have hddrc : ∀ r ∈ timings.controller.registers .ddrc, r.window ≠ .phy := fun r hr => by
    rw [RegisterProgram.window_of_mem_registers hr]
    decide
  have hcontrols : ∀ r ∈ selectorControls ++ selfRefreshControls, r ∈ Register.reserved := by
    decide +kernel
  have hprogrammed₄ : h₄.Programmed index timings (restored timings trained) := by
    refine ⟨?_, hloaded₄.2, hloaded₄.1, ?_⟩
    · have hholds₂ := hholds₁.kept hkept₂ rfl hcontroller fun r hr hmem =>
        hcontroller r hr (hcontrols r (List.mem_append_left _ hmem))
      have hholds₃ := hholds₂.kept hkept₃ rfl hcontroller fun r hr hmem =>
        hcontroller r hr (hcontrols r (List.mem_append_right _ hmem))
      exact hholds₃.kept hkept₄ rfl hcontroller fun r hr => hunloaded r (hddrc r hr)
    · have hselects₃ := hselects₂.kept hkept₃ (by decide) (by decide)
      exact hselects₃.kept hkept₄ (hunloaded _ (by decide)) (hunloaded _ (by decide))
  refine ⟨hprogrammed₄.kept hkept₅ (fun r hr => ?_) (by decide) ?_, ⟨?_, ?_⟩⟩
  · have hfree := reserved_of_restored hclear trained r hr
    exact ⟨hfree, fun heq => hfree (heq ▸ Register.mem_reserved_of_reachable (by decide))⟩
  · rw [hkept₅.unwritten (by decide) (by decide)]
  · rw [hstatus₅.1, Word.clear_and]
  · rw [hreleased, UInt32.zero_and]

/-- **The way up installs the point completely**, with the trained values that it is given. -/
theorem Unpinned.completes_powerUp (hunpinned : h.Unpinned) (hlimit : 0 < config.pollLimit.toNat)
    {timings : PointTimings} (hclear : timings.KeepsClear) (index : FrequencyIndex)
    (trained : Option (List UInt32)) :
    (powerUp config (timings.point index) timings trained).Completes RegisterFile.answer h
      fun _ h' => h'.Ready ∧ h'.Installed index timings (restored timings trained) ∧
        h'.Works config ∧ h'.Settled ∧ h'.Awake ∧ h'.Unheld ∧ (h.StandsBy → h'.StandsBy) := by
  rw [powerUp_eq]
  refine (hunpinned.completes_powerOn hlimit _).andThen fun _ h₁ hend₁ => ?_
  obtain ⟨hready₁, hclocked₁, hawake₁, hstands₁⟩ := hend₁
  refine (hready₁.serves_reload hlimit hclear index trained).andThen
    fun _ h₂ hready₂ hkept₂ hend₂ => ?_
  obtain ⟨hprogrammed₂, hunheld₂⟩ := hend₂
  refine (hready₂.serves_conclude hlimit true).mono fun _ h' hend => ?_
  obtain ⟨hready', hkept, hworks, hsettled, hfield⟩ := hend
  have hclocked₂ : h₂.ClockedBy timings.bypass := by
    have hselect : ¬ IsReloaded Clock.coreSelect := nofun
    rw [ClockedBy, hkept₂.unwritten (by decide) hselect]
    exact hclocked₁
  have hinstalled : h₂.Installed index timings (restored timings trained) :=
    ⟨hprogrammed₂, hclocked₂⟩
  refine ⟨hready', hinstalled.conclude hkept (reserved_of_restored hclear trained) hfield, hworks,
    hsettled, ?_, hunheld₂.kept hkept (not_mem_of_isConclusion (by decide)), fun hstands => ?_⟩
  · exact (hawake₁.kept hkept₂ (not_mem_of_isReloaded (by decide))).kept hkept
      (not_mem_of_isConclusion (by decide))
  · exact ((hstands₁ hstands).kept hkept₂ (not_mem_of_isReloaded (by decide))).kept hkept
      (not_mem_of_isConclusion (by decide))

end Hardware

/-- **A register outside the power domain changes only if it is written**, also while the power goes
on and off. -/
theorem Procedure.Within.outlasts {ε α : Type} {p : Sequence ε α} {q : Register} {h : Hardware}
    (hwithin : p.Within (Access.Writes (· ≠ q))) (hdomain : q.window.inDramDomain = false)
    (hstatus : q ∉ Register.statuses) :
    p.Ensures RegisterFile.answer h fun _ h' => h'.value q = h.value q :=
  hwithin.preserves (J := fun h' => h'.value q = h.value q) (fun _ _ _ _ ha hanswer hvalue =>
    ((Hardware.outlasts_answer hanswer).2 q hdomain hstatus ha).trans hvalue) rfl

end Reclock
