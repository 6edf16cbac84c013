/-
**What register accesses do to the hardware.**

Most registers hold what was written to them last.  A few react to a write: a status register
follows, or a request is carried out.  Whatever a sequence does, it changes only the registers that
it may write and those that follow them, unless it asks for the power to be switched.  On hardware
that is ready no access is refused, and every status that the sequences wait for is as they expect
it.

Main definitions:

* `Reclock.Register.Touches` — which registers a write may change;
* `Reclock.Hardware.Kept` — what sequences with a footprint leave alone;
* `Reclock.Hardware.Sound`, `Reclock.Hardware.Ready` — hardware on which nothing is under way, and
  on which no read is pinned besides.

Main results:

* `Reclock.Procedure.Within.kept` — **a sequence changes what its footprint lets it change**;
* `Reclock.Hardware.Kept.ready` — ready hardware stays ready;
* `Reclock.Hardware.completes_modify`, `completes_write`, `completes_wait` — accesses to ready
  hardware are answered.
-/

import Reclock.Proofs.Footprint
import Reclock.Proofs.Runs

set_option relaxedAutoImplicit false
set_option autoImplicit false

namespace Reclock

/-! ### Registers that react -/

namespace Register

/-- The registers that do more than hold what is written to them. -/
def reactive : List Register :=
  [Ddrc.mrctrl0, Ddrc.pwrctl, Ddrc.dfimisc, Ddrc.swctl, Ddrc.dbgcmd, Phy.lpCtrl, Clock.pllControl,
    Clock.bypassDivider, Power.downRequest, Power.upRequest, Reset.control, FastSwitch.ctrl]

/-- The registers that a status follows, each with its status. -/
def followed : List (Register × Register) :=
  [(Ddrc.pwrctl, Ddrc.stat), (Ddrc.dfimisc, Ddrc.dfistat), (Ddrc.swctl, Ddrc.swstat),
    (Phy.lpCtrl, Phy.lpStat), (Clock.bypassDivider, Clock.bypassStat),
    (Reset.control, Phy.resetStat), (FastSwitch.ctrl, FastSwitch.stat)]

/-- The registers that show the status of another. -/
def statuses : List Register := followed.map (·.2)

/-- **A write to the one register may change the other.** -/
def Touches (r q : Register) : Prop := q = r ∨ (r, q) ∈ followed

instance (r q : Register) : Decidable (r.Touches q) := inferInstanceAs (Decidable (_ ∨ _))

/-- A register that shows no status is changed only by writes to it. -/
theorem eq_of_touches {r q : Register} (h : r.Touches q) (hq : q ∉ statuses) : q = r := by
  rcases h with rfl | hfollowed
  · rfl
  · exact absurd (List.mem_map_of_mem hfollowed) hq

/-- The requests to switch the power. -/
def requests : List Register := [Power.downRequest, Power.upRequest]

/-- The registers whose value in normal operation the sequences rely on. -/
def fixtures : List Register := [Ddrc.pstat, Ddrc.mrstat, Ddrc.dbgcam, Ddrc.dbgstat]

/-- A register that may be written without the power, or a fixture, being changed. -/
def Harmless (r : Register) : Prop := r ∉ requests ++ fixtures

instance (r : Register) : Decidable r.Harmless := inferInstanceAs (Decidable (_ ∉ _))

/-- A register that can be reached whoever owns the PHY's bus. -/
def Direct (r : Register) : Prop := r.window ≠ .phy ∨ r ∈ Phy.alwaysReachable

instance (r : Register) : Decidable r.Direct := inferInstanceAs (Decidable (_ ∨ _))

/-- A register that the sequences control the hardware by. -/
def Control (r : Register) : Prop := r.Direct ∧ r.Harmless

instance (r : Register) : Decidable r.Control := inferInstanceAs (Decidable (_ ∧ _))

theorem Control.ne_mrstat {r : Register} (h : r.Control) : r ≠ Ddrc.mrstat := by
  rintro rfl
  exact h.2 (by decide)

theorem not_touches_fixture {r q : Register} (hr : r.Harmless) (hq : q ∈ fixtures) :
    ¬ r.Touches q := by
  rintro (rfl | hfollowed)
  · exact hr (List.mem_append_right _ hq)
  · have happart : ∀ q ∈ fixtures, ∀ entry ∈ followed, entry.2 ≠ q := by decide
    exact happart q hq _ hfollowed rfl

theorem Harmless.not_mem_requests {r : Register} (h : r.Harmless) : r ∉ requests :=
  fun hr => h (List.mem_append_left _ hr)

/-- A register that programs may write shows no status. -/
theorem not_status_of_not_reserved {r : Register} (hr : r ∉ reserved)
    (hdomain : r.window.inDramDomain = true) : r ∉ statuses := by
  intro hmem
  have hall : ∀ q ∈ statuses, q.window.inDramDomain = true → q ∈ reserved := by decide +kernel
  exact hr (hall r hmem hdomain)

theorem harmless_of_not_reserved {r : Register} (hr : r ∉ reserved)
    (hdomain : r.window.inDramDomain = true) : r.Harmless := by
  intro hmem
  have hall : ∀ q ∈ requests ++ fixtures, q.window.inDramDomain = true → q ∈ reserved := by
    decide +kernel
  exact hr (hall r hmem hdomain)

theorem not_reactive_of_not_reserved {r : Register} (hr : r ∉ reserved)
    (hdomain : r.window.inDramDomain = true) : r ∉ reactive := by
  intro hmem
  have hall : ∀ q ∈ reactive, q.window.inDramDomain = true → q ∈ reserved := by
    decide +kernel
  exact hr (hall r hmem hdomain)

end Register

namespace Hardware

variable {h h' h'' : Hardware} {r q : Register} {v : UInt32} {set : Register → Prop}

/-! ### Contents -/

theorem value_store (h : Hardware) (r q : Register) (v : UInt32) :
    (h.store r v).value q = if q = r then v else h.value q :=
  RegisterMap.get_set h.values r q v

@[simp] theorem value_store_self (h : Hardware) (r : Register) (v : UInt32) :
    (h.store r v).value r = v :=
  RegisterMap.get_set_self h.values r v

theorem value_store_of_ne {q r : Register} (hq : q ≠ r) (h : Hardware) (v : UInt32) :
    (h.store r v).value q = h.value q :=
  RegisterMap.get_set_of_ne hq

theorem value_dropDomain (h : Hardware) (q : Register) :
    h.dropDomain.value q = if q.window.inDramDomain then 0 else h.value q :=
  RegisterMap.get_dropWhere h.values _ q

/-! ### What a write changes -/

/-- **What sequences that write only registers of a set leave alone**: the registers that they do
not touch, the pins, the power, and the list of mode register writes. -/
structure Kept (set : Register → Prop) (h h' : Hardware) : Prop where
  value : ∀ q, (∀ r, set r → ¬ r.Touches q) → h'.value q = h.value q
  pins : h'.pins = h.pins
  powered : h'.powered = h.powered
  busyReads : h.busyReads ≤ modeBusyReads → h'.busyReads ≤ modeBusyReads
  modeWrites : ¬ set Ddrc.mrctrl0 → h'.modeWrites = h.modeWrites

namespace Kept

theorem refl (set : Register → Prop) (h : Hardware) : Kept set h h :=
  ⟨fun _ _ => rfl, rfl, rfl, id, fun _ => rfl⟩

theorem trans (hkept : Kept set h h') (hkept' : Kept set h' h'') : Kept set h h'' where
  value q hq := (hkept'.value q hq).trans (hkept.value q hq)
  pins := hkept'.pins.trans hkept.pins
  powered := hkept'.powered.trans hkept.powered
  busyReads hbusy := hkept'.busyReads (hkept.busyReads hbusy)
  modeWrites hset := (hkept'.modeWrites hset).trans (hkept.modeWrites hset)

/-- What leaves more alone leaves less alone. -/
theorem mono {set' : Register → Prop} (hkept : Kept set h h') (hset : ∀ r, set r → set' r) :
    Kept set' h h' where
  value q hq := hkept.value q fun r hr => hq r (hset r hr)
  pins := hkept.pins
  powered := hkept.powered
  busyReads := hkept.busyReads
  modeWrites hmode := hkept.modeWrites fun hr => hmode (hset _ hr)

/-- One register is stored, and with it perhaps the status that follows it. -/
theorem of_values (hvalue : ∀ q, ¬ r.Touches q → h'.value q = h.value q) (hset : set r)
    (hpins : h'.pins = h.pins) (hpowered : h'.powered = h.powered)
    (hbusy : h'.busyReads = h.busyReads) (hmode : h'.modeWrites = h.modeWrites) :
    Kept set h h' :=
  ⟨fun q hq => hvalue q (hq r hset), hpins, hpowered, fun hle => hbusy ▸ hle, fun _ => hmode⟩

theorem store (hset : set r) (v : UInt32) : Kept set h (h.store r v) :=
  of_values (r := r) (fun _ hq => value_store_of_ne (fun heq => hq (.inl heq)) h v) hset rfl rfl rfl
    rfl

/-- A register and its status are stored. -/
theorem store_followed {status : Register} (hset : set r) (hstatus : (r, status) ∈ Register.followed)
    (v w : UInt32) : Kept set h ((h.store r v).store status w) := by
  refine of_values (r := r) (fun q hq => ?_) hset rfl rfl rfl rfl
  have hne : q ≠ status := by
    rintro rfl
    exact hq (.inr hstatus)
  rw [value_store_of_ne hne, value_store_of_ne fun heq => hq (.inl heq)]

end Kept

/-! ### What a write does, register by register -/

/-- A register that does not react holds what is written to it. -/
theorem effect_of_not_reactive (hr : r ∉ Register.reactive) (h : Hardware) (v : UInt32) :
    h.effect r v = .ok (h.store r v) := by
  simp only [Register.reactive, List.mem_cons, List.not_mem_nil, or_false, not_or] at hr
  simp only [effect, hr, false_and, if_false]

theorem effect_mrctrl0_of_start (h : Hardware) (hstart : v &&& Ddrc.modeWrite ≠ 0) :
    h.effect Ddrc.mrctrl0 v = h.startModeWrite v :=
  if_pos ⟨rfl, hstart⟩

theorem effect_mrctrl0_of_idle (h : Hardware) (hidle : v &&& Ddrc.modeWrite = 0) :
    h.effect Ddrc.mrctrl0 v = .ok (h.store Ddrc.mrctrl0 v) :=
  (if_neg fun hstart => hstart.2 hidle).trans rfl

theorem effect_pwrctl (h : Hardware) (v : UInt32) : h.effect Ddrc.pwrctl v =
    .ok ((h.store Ddrc.pwrctl v).store Ddrc.stat
      (if v &&& Ddrc.selfRefreshForced == Ddrc.selfRefreshForced then forcedSelfRefresh
        else Ddrc.modeNormal)) :=
  rfl

theorem effect_dfimisc (h : Hardware) (v : UInt32) :
    h.effect Ddrc.dfimisc v = .ok (h.writeDfimisc v) :=
  rfl

theorem effect_swctl (h : Hardware) (v : UInt32) : h.effect Ddrc.swctl v =
    .ok ((h.store Ddrc.swctl v).store Ddrc.swstat (v &&& Ddrc.swDoneAck)) :=
  rfl

theorem effect_dbgcmd (h : Hardware) (v : UInt32) :
    h.effect Ddrc.dbgcmd v = .ok (h.store Ddrc.dbgcmd 0) :=
  rfl

theorem effect_lpCtrl (h : Hardware) (v : UInt32) : h.effect Phy.lpCtrl v =
    .ok ((h.store Phy.lpCtrl v).store Phy.lpStat (v &&& Phy.holdActive)) :=
  rfl

theorem effect_pllControl (h : Hardware) (v : UInt32) : h.effect Clock.pllControl v =
    .ok (h.store Clock.pllControl
      (v &&& ~~~Clock.pllLock ||| if v &&& Clock.pllRun ≠ 0 then Clock.pllLock else 0)) :=
  rfl

theorem effect_bypassDivider (h : Hardware) (v : UInt32) : h.effect Clock.bypassDivider v =
    .ok ((h.store Clock.bypassDivider v).store Clock.bypassStat Clock.bypassUpdated) :=
  rfl

theorem effect_upRequest (h : Hardware) (v : UInt32) :
    h.effect Power.upRequest v = .ok (h.requestUp v) :=
  rfl

theorem effect_speedControl (h : Hardware) (v : UInt32) : h.effect FastSwitch.ctrl v =
    .ok ((h.store FastSwitch.ctrl v).store FastSwitch.stat
      (if v &&& FastSwitch.stopRequest ≠ 0 then FastSwitch.stopped else 0)) :=
  rfl

/-! ### What a write leaves alone -/

theorem kept_startModeWrite (hset : set Ddrc.mrctrl0) (heffect : h.startModeWrite v = .ok h') :
    Kept set h h' := by
  unfold startModeWrite at heffect
  split at heffect
  · cases heffect
  · cases heffect
    exact ⟨fun q hq => value_store_of_ne (fun heq => hq _ hset (.inl heq)) _ _, rfl, rfl,
      fun _ => Nat.le_refl _, fun hmode => absurd hset hmode⟩

theorem kept_writeDfimisc (hset : set Ddrc.dfimisc) (h : Hardware) (v : UInt32) :
    Kept set h (h.writeDfimisc v) := by
  have hfollowed : (Ddrc.dfimisc, Ddrc.dfistat) ∈ Register.followed := by decide
  unfold writeDfimisc
  dsimp only
  split
  · exact .store_followed hset hfollowed _ _
  · split
    · exact .store_followed hset hfollowed _ _
    · exact .store hset _

theorem kept_writeReset (hset : set Reset.control) (heffect : h.writeReset v = .ok h') :
    Kept set h h' := by
  unfold writeReset at heffect
  dsimp only at heffect
  split at heffect
  · cases heffect
  · split at heffect
    · cases heffect
    · cases heffect
      exact .store_followed hset (by decide) _ _

/-- **A write changes only the register and the status that follows it**, unless it asks for the
power to be switched. -/
theorem kept_effect (hset : set r) (hrequest : r ∉ Register.requests)
    (heffect : h.effect r v = .ok h') : Kept set h h' := by
  by_cases hr : r ∈ Register.reactive
  case neg =>
    rw [effect_of_not_reactive hr] at heffect
    cases heffect
    exact .store hset v
  simp only [Register.reactive, List.mem_cons, List.not_mem_nil, or_false] at hr
  rcases hr with rfl | rfl | rfl | rfl | rfl | rfl | rfl | rfl | rfl | rfl | rfl | rfl
  · by_cases hstart : v &&& Ddrc.modeWrite = 0
    · rw [effect_mrctrl0_of_idle h hstart] at heffect
      cases heffect
      exact .store hset v
    · rw [effect_mrctrl0_of_start h hstart] at heffect
      exact kept_startModeWrite hset heffect
  · cases (effect_pwrctl h v).symm.trans heffect
    exact .store_followed hset (by decide) _ _
  · cases (effect_dfimisc h v).symm.trans heffect
    exact kept_writeDfimisc hset h v
  · cases (effect_swctl h v).symm.trans heffect
    exact .store_followed hset (by decide) _ _
  · cases (effect_dbgcmd h v).symm.trans heffect
    exact .store hset _
  · cases (effect_lpCtrl h v).symm.trans heffect
    exact .store_followed hset (by decide) _ _
  · cases (effect_pllControl h v).symm.trans heffect
    exact .store hset _
  · cases (effect_bypassDivider h v).symm.trans heffect
    exact .store_followed hset (by decide) _ _
  · exact absurd (by decide) hrequest
  · exact absurd (by decide) hrequest
  · exact kept_writeReset hset heffect
  · cases (effect_speedControl h v).symm.trans heffect
    exact .store_followed hset (by decide) _ _

theorem kept_read (hread : read r h = .ok (v, h')) : Kept set h h' := by
  unfold read at hread
  split at hread
  · cases hread
    exact .refl set h
  repeat' split at hread
  · cases hread
  · cases hread
    exact .refl set h
  · cases hread
    exact ⟨fun _ _ => rfl, rfl, rfl, fun hbusy => Nat.le_trans (Nat.sub_le _ _) hbusy, fun _ => rfl⟩
  · cases hread
    exact .refl set h

/-- A write that is answered is recorded, and has its effect. -/
theorem effect_of_answer {reply : Unit}
    (hanswer : RegisterFile.answer (.write r v) h = .ok reply h') :
    ({ h with writes := h.writes.push (r, v) } : Hardware).effect r v = .ok h' := by
  simp only [RegisterFile.answer, RegisterFile.write] at hanswer
  split at hanswer
  case h_1 hwrite =>
    cases hanswer
    unfold write at hwrite
    dsimp only at hwrite
    repeat' split at hwrite
    · cases hwrite
    · cases hwrite
    · exact hwrite
  case h_2 => cases hanswer

/-- An access changes no more than its footprint lets it. -/
theorem kept_answer {a : Access} {reply : a.Reply} (ha : Access.Writes set a)
    (hset : ∀ r, set r → r ∉ Register.requests)
    (hanswer : RegisterFile.answer a h = .ok reply h') : Kept set h h' := by
  cases a with
  | read r =>
      simp only [RegisterFile.answer, RegisterFile.read] at hanswer
      split at hanswer
      case h_1 hread =>
        cases hanswer
        exact kept_read hread
      case h_2 => cases hanswer
  | write r v =>
      have hrecorded : Kept set h { h with writes := h.writes.push (r, v) } :=
        ⟨fun _ _ => rfl, rfl, rfl, id, fun _ => rfl⟩
      exact hrecorded.trans (kept_effect ha (hset r ha) (effect_of_answer hanswer))

/-! ### Hardware that is ready -/

/-- **Hardware on which nothing is under way**: it has power, its status registers are as they are
in normal operation, and no mode register write takes longer than one does. -/
structure Sound (h : Hardware) : Prop where
  powered : h.powered = true
  portsIdle : h.value Ddrc.pstat = 0
  modeStatus : h.value Ddrc.mrstat = 0
  drained : h.value Ddrc.dbgcam = Ddrc.drained
  calibrated : h.value Ddrc.dbgstat = 0
  busyReads : h.busyReads ≤ modeBusyReads

/-- No read is pinned. -/
def Unpinned (h : Hardware) : Prop := ∀ r, h.pins.find? r = none

/-- **Hardware that serves every sequence**: nothing is under way, and no read is pinned. -/
structure Ready (h : Hardware) : Prop extends Sound h where
  unpinned : h.Unpinned

theorem Kept.unpinned (hkept : Kept set h h') (hunpinned : h.Unpinned) : h'.Unpinned := by
  intro r
  rw [hkept.pins]
  exact hunpinned r

theorem Kept.fixture (hkept : Kept set h h') (hset : ∀ r, set r → r.Harmless)
    (hq : q ∈ Register.fixtures) : h'.value q = h.value q :=
  hkept.value q fun r hr => Register.not_touches_fixture (hset r hr) hq

/-- A register that shows no status changes only if it is written. -/
theorem Kept.unwritten (hkept : Kept set h h') (hq : q ∉ Register.statuses) (hset : ¬ set q) :
    h'.value q = h.value q := by
  refine hkept.value q fun r hr htouches => hset ?_
  rw [Register.eq_of_touches htouches hq]
  exact hr

/-- Registers with everything that they follow keep their values if none of them is written. -/
theorem Kept.apart {apart : List Register} (hkept : Kept set h h')
    (hclosed : ∀ entry ∈ Register.followed, entry.2 ∈ apart → entry.1 ∈ apart)
    (hset : ∀ r, set r → r ∉ apart) (hq : q ∈ apart) : h'.value q = h.value q := by
  refine hkept.value q fun r hr htouches => hset r hr ?_
  rcases htouches with rfl | hfollowed
  · exact hq
  · exact hclosed _ hfollowed hq

/-- Sound hardware stays sound. -/
theorem Kept.sound (hkept : Kept set h h') (hset : ∀ r, set r → r.Harmless) (hsound : h.Sound) :
    h'.Sound where
  powered := hkept.powered.trans hsound.powered
  portsIdle := (hkept.fixture hset (by decide)).trans hsound.portsIdle
  modeStatus := (hkept.fixture hset (by decide)).trans hsound.modeStatus
  drained := (hkept.fixture hset (by decide)).trans hsound.drained
  calibrated := (hkept.fixture hset (by decide)).trans hsound.calibrated
  busyReads := hkept.busyReads hsound.busyReads

/-- Ready hardware stays ready. -/
theorem Kept.ready (hkept : Kept set h h') (hset : ∀ r, set r → r.Harmless) (hready : h.Ready) :
    h'.Ready :=
  ⟨hkept.sound hset hready.toSound, hkept.unpinned hready.unpinned⟩

/-! ### Accesses that are answered -/

/-- **An access to the register is not refused**: the register has power, its bus is free, and no
pin stands for it. -/
structure Open (h : Hardware) (r : Register) : Prop where
  unpinned : h.pins.find? r = none
  free : h.busDenied r = false
  powered : (r.window.inDramDomain && !h.powered) = false

theorem answer_read (hopen : h.Open r) (hr : r ≠ Ddrc.mrstat) :
    RegisterFile.answer (.read r) h = .ok (h.value r) h := by
  simp [RegisterFile.answer, RegisterFile.read, read, hopen.unpinned, hopen.free, hopen.powered, hr]

theorem answer_write (hfree : h.busDenied r = false)
    (hpowered : (r.window.inDramDomain && !h.powered) = false)
    (heffect : ({ h with writes := h.writes.push (r, v) } : Hardware).effect r v = .ok h') :
    RegisterFile.answer (.write r v) h = .ok () h' := by
  have hfree' : ({ h with writes := h.writes.push (r, v) } : Hardware).busDenied r = false := hfree
  simp [RegisterFile.answer, RegisterFile.write, write, hpowered, hfree', heffect]

end Hardware

/-! ### Sequences on hardware -/

/-- What every answer to an allowed action preserves holds at the end of the run. -/
theorem Procedure.Within.preserves {A : Type} {Reply : A → Type} {σ ε α : Type}
    {world : (a : A) → σ → EStateM.Result Halt σ (Reply a)} {allowed : A → Prop} {J : σ → Prop}
    {p : Procedure Reply ε α} {s : σ} (hwithin : p.Within allowed)
    (hanswer : ∀ a s₁ r s₂, allowed a → world a s₁ = .ok r s₂ → J s₁ → J s₂) (hs : J s) :
    p.Ensures world s fun _ s' => J s' := by
  induction p generalizing s with
  | done a => exact Procedure.ensures_of_run rfl hs
  | fail e => exact Procedure.ensures_of_run rfl hs
  | act a next ih =>
      intro r s' hrun
      simp only [Procedure.run] at hrun
      split at hrun
      case h_1 reply s₁ hfirst =>
        exact ih reply (hwithin.2 reply) (hanswer _ _ _ _ hwithin.1 hfirst hs) _ _ hrun
      case h_2 => cases hrun

/-- **A sequence changes what its footprint lets it change**, and nothing else. -/
theorem Procedure.Within.kept {ε α : Type} {p : Sequence ε α} {set : Register → Prop}
    {h : Hardware} (hwithin : p.Within (Access.Writes set))
    (hset : ∀ r, set r → r ∉ Register.requests) :
    p.Ensures RegisterFile.answer h fun _ h' => Hardware.Kept set h h' :=
  hwithin.preserves (J := fun h' => Hardware.Kept set h h')
    (fun _ _ _ _ ha hanswer hkept => hkept.trans (Hardware.kept_answer ha hset hanswer))
    (.refl set h)

namespace Hardware

open Procedure

variable {ε α β : Type} {h : Hardware} {r : Register} {set : Register → Prop}
  {p : Sequence ε α} {P : α → Hardware → Prop} {Q : β → Hardware → Prop}

/-- **The hardware serves a sequence**: the run ends with a result, the hardware is ready again, and
only registers of a set have been written. -/
def Serves (h : Hardware) (p : Sequence ε α) (set : Register → Prop) (P : α → Hardware → Prop) :
    Prop :=
  p.Completes RegisterFile.answer h fun a h' => h'.Ready ∧ Kept set h h' ∧ P a h'

/-- A sequence that completes is served, by its footprint. -/
theorem Ready.serves (hready : h.Ready) (hwithin : p.Within (Access.Writes set))
    (hset : ∀ r, set r → r.Harmless) (hp : p.Completes RegisterFile.answer h P) :
    h.Serves p set P := by
  obtain ⟨a, h', hrun, ha⟩ := hp
  have hkept := hwithin.kept (fun r hr => (hset r hr).not_mem_requests) _ _ hrun
  exact completes_of_run hrun ⟨hkept.ready hset hready, hkept, ha⟩

theorem Serves.andThen {f : α → Sequence ε β} (hp : h.Serves p set P)
    (hf : ∀ a h₁, h₁.Ready → Kept set h h₁ → P a h₁ → (f a).Completes RegisterFile.answer h₁ Q) :
    (p >>= f).Completes RegisterFile.answer h Q :=
  Completes.andThen hp fun a h₁ hfirst => hf a h₁ hfirst.1 hfirst.2.1 hfirst.2.2

theorem Serves.completes {P' : α → Hardware → Prop} (hp : h.Serves p set P)
    (hP : ∀ a h', Kept set h h' → P a h' → P' a h') : p.Completes RegisterFile.answer h P' :=
  Completes.mono hp fun a h' hend => hP a h' hend.2.1 hend.2.2

/-! ### Single accesses -/

/-- The bus to a register is free: it does not lead through the PHY's, or software owns that. -/
def Reaches (h : Hardware) (r : Register) : Prop :=
  r.Direct ∨ h.value Phy.busOwner = Phy.ownedBySoftware

theorem Reaches.free (hr : h.Reaches r) : h.busDenied r = false := by
  rcases hr with (hwindow | hreachable) | howner
  · simp [busDenied, hwindow]
  · simp [busDenied, hreachable]
  · simp [busDenied, howner]

theorem Ready.open (hready : h.Ready) (hr : h.Reaches r) : h.Open r :=
  ⟨hready.unpinned r, hr.free, by simp [hready.powered]⟩

/-- A register is read. -/
theorem Open.completes_read (hopen : h.Open r) (hr : r ≠ Ddrc.mrstat) :
    (Sequence.read r : Sequence ε UInt32).Completes RegisterFile.answer h fun v h' =>
      v = h.value r ∧ h' = h := by
  refine completes_of_run (a := h.value r) ?_ ⟨rfl, rfl⟩
  simp only [Sequence.read, run, answer_read hopen hr]

/-- A register is written, and reacts.  Pins do not matter. -/
theorem completes_write {v : UInt32} {P : Hardware → Prop} (hfree : h.busDenied r = false)
    (hpowered : (r.window.inDramDomain && !h.powered) = false)
    (heffect : ∀ writes, ∃ h', ({ h with writes } : Hardware).effect r v = .ok h' ∧ P h') :
    (Sequence.write r v : Sequence ε Unit).Completes RegisterFile.answer h fun _ h' => P h' := by
  obtain ⟨h', heffect, hP⟩ := heffect (h.writes.push (r, v))
  refine completes_of_run (a := ()) ?_ hP
  simp only [Sequence.write, run, answer_write hfree hpowered heffect]

theorem Open.completes_write {v : UInt32} {P : Hardware → Prop} (hopen : h.Open r)
    (heffect : ∀ writes, ∃ h', ({ h with writes } : Hardware).effect r v = .ok h' ∧ P h') :
    (Sequence.write r v : Sequence ε Unit).Completes RegisterFile.answer h fun _ h' => P h' :=
  Hardware.completes_write hopen.free hopen.powered heffect

/-- A register is read and written, and reacts. -/
theorem Open.completes_modify {f : UInt32 → UInt32} {P : Hardware → Prop} (hopen : h.Open r)
    (hr : r ≠ Ddrc.mrstat)
    (heffect : ∀ writes, ∃ h', ({ h with writes } : Hardware).effect r (f (h.value r)) = .ok h' ∧
      P h') :
    (Sequence.modify r f : Sequence ε Unit).Completes RegisterFile.answer h fun _ h' => P h' := by
  refine (hopen.completes_read hr).andThen fun v h₁ hread => ?_
  obtain ⟨rfl, rfl⟩ := hread
  exact hopen.completes_write heffect

/-- What holds after every write of the value to the register holds after it is modified so. -/
theorem ensures_modify {f : UInt32 → UInt32} {P : Hardware → Prop}
    (heffect : ∀ (h₁ : Hardware) v h', h₁.effect r (f v) = .ok h' → P h') (h : Hardware) :
    (Sequence.modify r f : Sequence ε Unit).Ensures RegisterFile.answer h fun _ h' => P h' := by
  intro result h' hrun
  simp only [Sequence.modify, Sequence.read, Sequence.write, act_bind, done_bind, run] at hrun
  split at hrun
  case h_1 v h₁ _ =>
    split at hrun
    case h_1 hanswer =>
      cases hrun
      exact heffect _ _ _ (effect_of_answer hanswer)
    case h_2 => cases hrun
  case h_2 => cases hrun

/-- A control register is read and written, and reacts. -/
theorem Ready.serves_modify {f : UInt32 → UInt32} {P : Hardware → Prop} (hready : h.Ready)
    (hr : r.Control)
    (heffect : ∀ writes, ∃ h', ({ h with writes } : Hardware).effect r (f (h.value r)) = .ok h' ∧
      P h') :
    h.Serves (Sequence.modify r f : Sequence ε Unit) (· = r) fun _ => P := by
  have hwithin : (Sequence.modify r f : Sequence ε Unit).Within (Access.Writes (· = r)) :=
    @Sequence.within_modify ε (· = r) r rfl f
  refine hready.serves hwithin (fun q hq => hq ▸ hr.2) ?_
  exact (hready.open (.inl hr.1)).completes_modify hr.ne_mrstat heffect

/-- A control register that does not react is read and written. -/
theorem Ready.serves_modify_plain (hready : h.Ready) (hr : r.Control) (hplain : r ∉ Register.reactive)
    (f : UInt32 → UInt32) :
    h.Serves (Sequence.modify r f : Sequence ε Unit) (· = r) fun _ h' =>
      h'.value r = f (h.value r) :=
  hready.serves_modify hr fun _ => ⟨_, effect_of_not_reactive hplain _ _, value_store_self ..⟩

/-- A control register is written, and reacts. -/
theorem Ready.serves_write {v : UInt32} {P : Hardware → Prop} (hready : h.Ready) (hr : r.Control)
    (heffect : ∀ writes, ∃ h', ({ h with writes } : Hardware).effect r v = .ok h' ∧ P h') :
    h.Serves (Sequence.write r v : Sequence ε Unit) (· = r) fun _ => P := by
  have hwithin : (Sequence.write r v : Sequence ε Unit).Within (Access.Writes (· = r)) :=
    @Sequence.within_write ε (· = r) r rfl v
  refine hready.serves hwithin (fun q hq => hq ▸ hr.2) ?_
  exact (hready.open (.inl hr.1)).completes_write heffect

/-- A control register that does not react is written. -/
theorem Ready.serves_write_plain (hready : h.Ready) (hr : r.Control) (hplain : r ∉ Register.reactive)
    (v : UInt32) :
    h.Serves (Sequence.write r v : Sequence ε Unit) (· = r) fun _ h' => h'.value r = v :=
  hready.serves_write hr fun _ => ⟨_, effect_of_not_reactive hplain _ _, value_store_self ..⟩

/-! ### Polls -/

/-- A status that is as it is waited for ends the wait at once. -/
theorem Open.completes_wait {config : Config} {condition : UInt32 → Bool} (hopen : h.Open r)
    (hlimit : 0 < config.pollLimit.toNat) (hr : r ≠ Ddrc.mrstat)
    (hcondition : condition (h.value r) = true) :
    (Sequences.wait config r condition).Completes RegisterFile.answer h fun _ h' => h' = h := by
  obtain ⟨limit, heq⟩ := Nat.exists_eq_succ_of_ne_zero (Nat.ne_of_gt hlimit)
  refine completes_of_run (a := ()) ?_ rfl
  simp only [Sequences.wait, Sequence.waitUntil, heq, pollUntil, Sequence.read, act_bind, done_bind,
    run, answer_read hopen hr, pure_eq_done, hcondition, if_true]

theorem Ready.serves_wait {config : Config} {condition : UInt32 → Bool} (hready : h.Ready)
    (hlimit : 0 < config.pollLimit.toNat) (hr : r.Direct) (hne : r ≠ Ddrc.mrstat)
    (hcondition : condition (h.value r) = true) :
    (Sequences.wait config r condition).Completes RegisterFile.answer h fun _ h' => h' = h :=
  (hready.open (.inl hr)).completes_wait hlimit hne hcondition

/-- A wait that ends well has had an attempt. -/
theorem ensures_limit_wait {config : Config} (r : Register) (condition : UInt32 → Bool)
    (h : Hardware) : (Sequences.wait config r condition).Ensures RegisterFile.answer h fun x _ =>
      ∀ u, x = .ok u → 0 < config.pollLimit.toNat := by
  by_cases hlimit : 0 < config.pollLimit.toNat
  · exact fun _ _ _ _ _ => hlimit
  · have hfail : Sequences.wait config r condition = .fail ⟨r, config.pollLimit⟩ := by
      rw [Sequences.wait, Sequence.waitUntil, Nat.eq_zero_of_not_pos hlimit]
      rfl
    rw [hfail]
    refine ensures_of_run rfl fun u hu => ?_
    cases hu

end Hardware

end Reclock
