/-
**Where the trained values come from.**

The values that the PHY was trained with belong to one frequency point.  They are saved the first
time the subsystem is powered down, with the current point as their label, and whenever it comes up
at the point of the label they are put back, at any other point those of the table.

The label says where the subsystem was, not what the PHY held.  The two are the same if the PHY was
programmed for the current point, by a boot loader, by a switch of the frequency or on a way up.  A
switch of the speed by the sequencer changes the point and leaves the PHY's registers alone; if the
first way down follows, the values of the other point of the pair are saved under a wrong label, and
put back there ever after.  So the point that the PHY was last programmed for is followed along the
calls, beside the label.

Main definitions:

* `Reclock.Controller.Genuine` — **trained values that belong to a point**;
* `Reclock.Origin`, `Reclock.Controller.Traces` — the point that the PHY was last programmed for,
  now and when its values were saved.

Main results:

* `Reclock.Hardware.Ready.ensures_switchPoint_trained`, `Unpinned.ensures_powerUp_trained` — which
  trained values a switch and the way up leave, whatever the parameters are;
* `Reclock.Controller.sourced_of_traces` — what is known of the saved values between calls;
* `Reclock.Controller.restored_belong` — **after the way up the trained values belong to the
  current point**, unless it bears a wrong label.
-/

import Reclock.Proofs.Refusal
import Reclock.Proofs.RoundTrip

set_option relaxedAutoImplicit false
set_option autoImplicit false

namespace Reclock

/-! ### Sequences that end well -/

namespace Hardware

open Procedure Sequences

variable {h : Hardware} {config : Config} {timings : PointTimings}

/-- Ready hardware stays ready while registers are written that do no harm. -/
theorem Ready.ensures_ready {ε α : Type} {p : Sequence ε α} (hready : h.Ready)
    (hwithin : p.Within (Access.Writes Register.Harmless)) :
    p.Ensures RegisterFile.answer h fun _ h' => h'.Ready :=
  (hwithin.kept fun _ hr => hr.not_mem_requests).mono fun _ _ hkept =>
    hkept.ready (fun _ hr => hr) hready

/-- **A switch that ends well leaves the trained values of the table**, whatever the parameters
are. -/
theorem Ready.ensures_switchPoint_trained (hready : h.Ready) (hclear : timings.KeepsClear)
    {leavingBypass : Bool} {point : FrequencyPoint} :
    (switchPoint config leavingBypass point timings).Ensures RegisterFile.answer h fun r h' =>
      ∀ u, r = .ok u → h'.Holds .phy timings.phyTrained := by
  have hlimit : (switchPoint config leavingBypass point timings).Ensures RegisterFile.answer h
      fun r _ => ∀ u, r = .ok u → 0 < config.pollLimit.toNat :=
    ensures_first (ensures_last fun _ h₁ => ensures_limit_wait _ _ h₁)
  by_cases hpos : 0 < config.pollLimit.toNat
  case neg => exact hlimit.mono fun _ _ hend u hu => absurd (hend u hu) hpos
  rw [switchPoint_eq]
  have hports : ∀ port, (Ddrc.pctrl port).Harmless := fun port => harmless_of_isPort _ ⟨port, rfl⟩
  refine (hready.ensures_ready (within_disablePorts hports)).andThen (fun _ h₁ hready₁ => ?_)
    fun _ _ _ => nofun
  refine (hready₁.ensures_ready (within_enterSelfRefresh (by decide))).andThen
    (fun _ h₂ hready₂ => ?_) fun _ _ _ => nofun
  refine (hready₂.ensures_ready (within_writeModeRegisters (by decide) (by decide))).andThen
    (fun _ h₃ hready₃ => ?_) fun _ _ _ => nofun
  refine (hready₃.ensures_ready (within_halt (by decide))).andThen (fun _ h₄ hready₄ => ?_)
    fun _ _ _ => nofun
  refine (hready₄.ensures_ready (within_selectFrequency (by decide))).andThen
    (fun _ h₅ hready₅ => ?_) fun _ _ _ => nofun
  refine (hready₅.serves_loadPrograms hpos hclear).ensures.andThen (fun _ h₆ hend => ?_)
    fun _ _ ⟨_, he, _⟩ => nomatch he
  obtain ⟨_, -, -, -, -, hholds, -⟩ := hend
  -- What is left to do writes neither the PHY nor what programs may write.
  have hclock : (switchClock config point).Within
      (Access.Writes fun r => r.window = .clock ∨ IsConclusion r) :=
    within_switchClock fun r hr => .inl (window_of_clockControls r hr)
  have hconclude : (conclude config (leavingBypass || point.bypass)).Within
      (Access.Writes IsConclusion) := within_conclude
  have hrest := within_bind hclock fun _ =>
    hconclude.mono (Access.Writes.mono fun r hr => .inr hr)
  have hrequests : ∀ r, r.window = .clock ∨ IsConclusion r → r ∉ Register.requests := by
    rintro r (hr | hr) hmem
    · have hall : ∀ q ∈ Register.requests, q.window ≠ .clock := by decide
      exact hall r hmem hr
    · exact (harmless_of_isConclusion r hr).not_mem_requests hmem
  refine (hrest.kept hrequests).mono fun _ h' hkept _ _ =>
    hholds.later.kept hkept rfl hclear.parts.2.2.1 fun r hr => ?_
  rintro (hwindow | hconclusion)
  · cases (RegisterProgram.window_of_mem_registers hr).symm.trans hwindow
  · exact hclear.parts.2.2.1 r hr (reserved_of_isConclusion hconclusion)

/-- **A way up that ends well leaves the trained values that it is given**, on ready hardware. -/
theorem Unpinned.ensures_powerUp_trained (hunpinned : h.Unpinned) (hclear : timings.KeepsClear)
    (happart : timings.TrainedApart) {index : FrequencyIndex} {trained : Option (List UInt32)} :
    (powerUp config (timings.point index) timings trained).Ensures RegisterFile.answer h
      fun r h' => ∀ u, r = .ok u → h'.Ready ∧ h'.Holds .phy (trainedProgram timings trained) := by
  have hlimit : (powerUp config (timings.point index) timings trained).Ensures
      RegisterFile.answer h fun r _ => ∀ u, r = .ok u → 0 < config.pollLimit.toNat := by
    rw [powerUp_eq_comeBack]
    refine Ensures.andThen (P := fun _ _ => True) (fun _ _ _ => trivial) (fun _ h₁ _ => ?_)
      fun _ _ _ => nofun
    exact ensures_first (ensures_limit_wait _ _ h₁)
  by_cases hpos : 0 < config.pollLimit.toNat
  case neg => exact hlimit.mono fun _ _ hend u hu => absurd (hend u hu) hpos
  refine (hunpinned.completes_powerUp hpos hclear index trained).ensures.mono ?_
  rintro _ h' ⟨_, -, hready, hinstalled, -⟩ _ _
  exact ⟨hready, hinstalled.phy.trained happart⟩

end Hardware

/-! ### Values that belong to a point -/

namespace Controller

open Hardware

variable {c : Controller} {boot f : FrequencyIndex} {found : List UInt32} {h h' : Hardware}

/-- **The PHY holds trained values that belong to a point**: those of the table, or, at the point
that it has booted at, those that were found there. -/
def Genuine (c : Controller) (boot : FrequencyIndex) (found : List UInt32) (h : Hardware)
    (f : FrequencyIndex) : Prop :=
  ∃ timings, c.table.timings? f = some timings ∧ (h.Holds .phy timings.phyTrained ∨
    f = boot ∧ h.Holds .phy (Sequences.trainedProgram timings (some found)))

/-- It depends on the registers of the point's trained values only. -/
theorem Genuine.of_values (hgenuine : c.Genuine boot found h f)
    (hsame : ∀ timings, c.table.timings? f = some timings →
      ∀ r ∈ timings.phyTrained.registers .phy, h'.value r = h.value r) :
    c.Genuine boot found h' f := by
  obtain ⟨timings, htimings, hholds⟩ := hgenuine
  have hregisters := hsame timings htimings
  refine ⟨timings, htimings, hholds.imp (fun htable => htable.of_values hregisters) ?_⟩
  rintro ⟨hboot, hfound⟩
  refine ⟨hboot, hfound.of_values fun r hr => hregisters r ?_⟩
  exact Sequences.mem_registers_of_trainedProgram hr

/-- Writes of other registers than those of programs take nothing away. -/
theorem Genuine.kept {set : Register → Prop} (hgenuine : c.Genuine boot found h f)
    (hclear : c.table.KeepsClear) (hkept : Kept set h h')
    (hset : ∀ r, set r → r ∈ Register.reserved ∨ r.window ≠ .phy) :
    c.Genuine boot found h' f := by
  refine hgenuine.of_values fun timings htimings r hr => ?_
  have hfree := (hclear.timings htimings).parts.2.2.1 r hr
  have hwindow := RegisterProgram.window_of_mem_registers hr
  refine hkept.unwritten (Register.not_status_of_not_reserved hfree ?_) fun hwritten => ?_
  · rw [hwindow]
    rfl
  · exact (hset r hwritten).elim hfree fun hother => hother hwindow

/-- Values that were read back and are restored belong to the point that they were read at. -/
theorem Genuine.readBack {timings : PointTimings} (hgenuine : c.Genuine boot found h f)
    (htimings : c.table.timings? f = some timings) (hholds : h'.Holds .phy
      (Sequences.trainedProgram timings (some (h.valuesOf .phy timings.phyTrained)))) :
    c.Genuine boot found h' f := by
  refine hgenuine.of_values fun timings' htimings' r hr => ?_
  cases htimings.symm.trans htimings'
  obtain ⟨entry, hentry, rfl⟩ := List.mem_map.1 hr
  exact hholds.readBack hentry

end Controller

/-! ### The origin of the values -/

/-- Whether a call has programmed the PHY anew: a switch of the frequency that has moved the point,
or a way up that has come to its end. -/
def Request.Reprograms {H : Type} (s s' : System H) : Request → Prop
  | switch _ _ => s'.barrier.current ≠ s.barrier.current
  | fast _ _ => False
  | enter => False
  | exit => s.retention.state = .retained ∧ s'.retention.state = .active

instance {H : Type} (s s' : System H) : (request : Request) →
    Decidable (request.Reprograms s s')
  | .switch _ _ => inferInstanceAs (Decidable (_ ≠ _))
  | .fast _ _ => inferInstanceAs (Decidable False)
  | .enter => inferInstanceAs (Decidable False)
  | .exit => inferInstanceAs (Decidable (_ ∧ _))

/-- **Where the trained values come from.** -/
structure Origin where
  /-- The point that the PHY was last programmed for. -/
  loaded : FrequencyIndex
  /-- The point that it was programmed for when its values were saved, if they have been. -/
  saved : Option FrequencyIndex

namespace Origin

variable {H : Type} {s s' : System H}

/-- What becomes of the origin by a call. -/
def after (x : Origin) (request : Request) (s s' : System H) : Origin where
  loaded := if request.Reprograms s s' then s'.barrier.current else x.loaded
  saved :=
    match s.retention.snapshot.trained, s'.retention.snapshot.trained with
    | none, some _ => some x.loaded
    | _, _ => x.saved

theorem loaded_after_of_moved (x : Origin) (target : FrequencyIndex) (online : CoreMask)
    (hmoved : s'.barrier.current ≠ s.barrier.current) :
    (x.after (.switch target online) s s').loaded = s'.barrier.current :=
  if_pos hmoved

theorem saved_after_of_eq (x : Origin) (request : Request)
    (h : s'.retention.snapshot.trained = s.retention.snapshot.trained) :
    (x.after request s s').saved = x.saved := by
  simp only [after, h]
  cases s.retention.snapshot.trained <;> rfl

theorem saved_after_of_first (x : Origin) (request : Request) {trained : TrainedValues}
    (hnone : s.retention.snapshot.trained = none)
    (hsome : s'.retention.snapshot.trained = some trained) :
    (x.after request s s').saved = some x.loaded := by
  simp only [after, hnone, hsome]

/-- A call that leaves the system as it was changes nothing about it. -/
@[simp] theorem after_self (x : Origin) (request : Request) (s : System H) :
    x.after request s s = x := by
  have hnot : ¬ request.Reprograms s s := by
    cases request with
    | switch => exact fun h => h rfl
    | fast => exact id
    | enter => exact id
    | exit => exact fun h => nomatch h.1.symm.trans h.2
  have hsaved := saved_after_of_eq x request (rfl : s.retention.snapshot.trained = _)
  have hloaded : (x.after request s s).loaded = x.loaded := if_neg hnot
  cases hx : x.after request s s
  rw [hx] at hsaved hloaded
  cases x
  cases hsaved
  cases hloaded
  rfl

end Origin

namespace Controller

/-- **The systems that calls lead to, with the origin of the trained values**: at the start the PHY
is programmed for the current point, and nothing has been saved. -/
inductive Traces {H : Type} [RegisterFile H] (c : Controller) (s₀ : System H) :
    System H → Origin → Prop
  | start : Traces c s₀ s₀ ⟨s₀.barrier.current, none⟩
  | call {s s' : System H} {x : Origin} {r : Except TransitionError Unit} (core : Nat)
      (request : Request) (h : Traces c s₀ s x)
      (hrun : System.run (c.operation core request) s = .ok r s') :
      Traces c s₀ s' (x.after request s s')

section Calls

variable {H : Type} [RegisterFile H] {c : Controller} {s₀ s s' : System H} {x : Origin}

/-- They are the systems that calls lead to. -/
theorem Traces.follows (h : c.Traces s₀ s x) : c.Follows s₀ s := by
  induction h with
  | start => exact .refl
  | call core request _ hrun ih => exact .call core request ih hrun

/-- Whatever the calls, the trained values have an origin. -/
theorem Follows.traces (h : c.Follows s₀ s) : ∃ x, c.Traces s₀ s x := by
  induction h with
  | refl => exact ⟨_, .start⟩
  | call core request _ hrun ih =>
      obtain ⟨x, hx⟩ := ih
      exact ⟨_, hx.call core request hrun⟩

/-- A way up that succeeds leads from a subsystem that is off to an active one. -/
theorem states_of_exitRetention
    (hrun : System.run c.exitRetention s = .ok (.ok ()) s') :
    s.retention.state = .retained ∧ s'.retention.state = .active := by
  have hretained : s.retention.state = .retained := by
    by_contra hother
    cases hrun.symm.trans (run_exitRetention_of_ne hother)
  have hends : c.exitRetention.Ensures System.answer s fun r s' =>
      ∀ u, r = .ok u → s'.retention.state = .active := by
    refine Procedure.ensures_last fun _ s₁ => Procedure.ensures_last fun _ s₂ =>
      Procedure.ensures_last fun session s₃ => Procedure.ensures_last fun snapshot s₄ => ?_
    have hrefuse : ∀ e, (session.refuse e : Operation TransitionError Unit).Ensures System.answer s₄
        fun r s' => ∀ u, r = .ok u → s'.retention.state = .active :=
      fun e => Procedure.ensures_last fun _ _ => Procedure.ensures_of_run rfl nofun
    cases snapshot with
    | none => exact hrefuse _
    | some snapshot =>
        dsimp only [exitTo]
        split
        · exact hrefuse _
        · refine Procedure.ensures_last fun outcome s₅ => ?_
          cases outcome with
          | error t => exact Procedure.ensures_last fun _ _ => Procedure.ensures_of_run rfl nofun
          | ok _ =>
              refine Procedure.ensures_bind_of_run (System.run_retention _ s₅) ?_
              refine Procedure.ensures_bind_of_run (System.run_finish _ _) ?_
              refine System.ensures_log (f := .done) fun events => ?_
              exact Procedure.ensures_of_run rfl fun _ _ => rfl
  exact ⟨hretained, hends _ _ hrun () rfl⟩

end Calls

open Hardware

variable {c : Controller} {boot : FrequencyIndex} {found : List UInt32} {s s' : System Hardware}
  {x : Origin}

/-! ### What is saved -/

/-- **What the way down saves**: the values that were saved before, or else, labelled with the
current point, those that the PHY holds, which are as genuine as before. -/
theorem PowersDown.saves (boot : FrequencyIndex) (found : List UInt32) {current : FrequencyIndex}
    {timings : PointTimings} {h h' : Hardware} {snapshot snapshot' : Snapshot}
    (hclear : c.table.KeepsClear) (hready : h.Ready)
    (htimings : c.table.timings? current = some timings)
    (hdown : c.PowersDown current timings h snapshot h' snapshot') :
    (∀ trained, snapshot.trained = some trained → snapshot'.trained = some trained) ∧
      (snapshot.trained = none → ∃ quiet : Hardware,
        snapshot'.trained = some ⟨current, quiet.valuesOf .phy timings.phyTrained⟩ ∧
          ∀ f, c.Genuine boot found h f → c.Genuine boot found quiet f) := by
  obtain ⟨quiet, saved, hquiet, hsaves, -⟩ := hdown
  have hself : ∀ r ∈ Sequences.selfRefreshControls, IsQuieting r := fun r hr =>
    .inl (List.mem_append_left _ hr)
  have hwithin : (Sequences.quietDown c.config).Within (Access.Writes IsQuieting) :=
    Sequences.within_quietDown (fun port => .inr ⟨port, rfl⟩) hself (.inl (by decide))
      (.inl (by decide))
  have hkept := (hwithin.kept fun r hr => (harmless_of_isQuieting r hr).not_mem_requests) _ _ hquiet
  cases hsaves with
  | kept htrained =>
      exact ⟨fun trained h => htrained.symm.trans h, fun hnone => nomatch htrained.symm.trans hnone⟩
  | taken hnone hread =>
      refine ⟨fun trained h => (nomatch hnone.symm.trans h), fun _ => ⟨quiet, ?_, fun f hf => ?_⟩⟩
      · have hready' := hkept.ready harmless_of_isQuieting hready
        obtain ⟨values, off, hrun, -, -, hvalues⟩ :=
          hready'.serves_readTrained (hclear.timings htimings)
        cases hrun.symm.trans hread
        rw [hvalues]
      · exact hf.kept hclear hkept fun r hr => .inl (reserved_of_isQuieting hr)

/-- **What holds between calls** of the trained values: before they are saved, the PHY holds values
of the point that it was last programmed for; and if the saved values bear the label of the point
that it had been programmed for then, they belong there. -/
structure Sourced (c : Controller) (boot : FrequencyIndex) (found : List UInt32)
    (s : System Hardware) (x : Origin) : Prop where
  unpinned : s.hardware.Unpinned
  ready : s.retention.state = .active → s.hardware.Ready
  fresh : s.retention.snapshot.trained = none →
    x.saved = none ∧ c.Genuine boot found s.hardware x.loaded
  labelled : ∀ trained, s.retention.snapshot.trained = some trained → ∃ home,
    x.saved = some home ∧ (home = trained.frequency → ∃ (quiet : Hardware) (timings : PointTimings),
      c.table.timings? home = some timings ∧
        trained.values = quiet.valuesOf .phy timings.phyTrained ∧ c.Genuine boot found quiet home)

/-- A move leaves the PHY with values of the point that it was last programmed for. -/
theorem Moves.genuine {request : Request} {p : Sequences.Timed Unit} {target : FrequencyIndex}
    (hmoves : c.Moves s request p target) (hclear : c.table.KeepsClear) (hready : s.hardware.Ready)
    (hrun : RegisterFile.run p s.hardware = .ok (.ok ()) s'.hardware)
    (hcurrent : s'.barrier.current = target)
    (hgenuine : c.Genuine boot found s.hardware x.loaded) :
    c.Genuine boot found s'.hardware (x.after request s s').loaded := by
  cases hmoves with
  | switch htimings _ _ hother =>
      have hmoved : s'.barrier.current ≠ s.barrier.current := by
        rw [hcurrent]
        exact hother.symm
      rw [x.loaded_after_of_moved _ _ hmoved, hcurrent]
      exact ⟨_, htimings, .inl (hready.ensures_switchPoint_trained
        (hclear.timings htimings) _ _ hrun () rfl)⟩
  | @fast speed =>
      -- The sequencer leaves the PHY's registers alone.
      have hwithin : (Sequences.switchSpeed c.config speed).Within
          (Access.Writes (· = FastSwitch.ctrl)) := Sequences.within_switchSpeed rfl
      have hkept := hwithin.kept (by rintro r rfl; decide) _ _ hrun
      exact hgenuine.kept hclear hkept (by rintro r rfl; exact .inr (by decide))

/-- The way down leaves trained values saved, with their origin: those that were saved before, or
else those of the point that the PHY was last programmed for. -/
theorem Sourced.saved_down {timings : PointTimings} {trained : TrainedValues}
    (h : c.Sourced boot found s x) (hclear : c.table.KeepsClear)
    (hactive : s.retention.state = .active)
    (htimings : c.table.timings? s.barrier.current = some timings)
    (hdown : c.PowersDown s.barrier.current timings s.hardware s.retention.snapshot s'.hardware
      s'.retention.snapshot) (htrained : s'.retention.snapshot.trained = some trained) :
    ∃ home, (x.after .enter s s').saved = some home ∧
      (home = trained.frequency → ∃ (quiet : Hardware) (timings : PointTimings),
        c.table.timings? home = some timings ∧
          trained.values = quiet.valuesOf .phy timings.phyTrained ∧
            c.Genuine boot found quiet home) := by
  obtain ⟨hkeeps, hfirst⟩ := hdown.saves boot found hclear (h.ready hactive) htimings
  cases hbefore : s.retention.snapshot.trained with
  | some trained' =>
      have hafter := hkeeps trained' hbefore
      cases htrained.symm.trans hafter
      rw [x.saved_after_of_eq .enter (hafter.trans hbefore.symm)]
      exact h.labelled trained hbefore
  | none =>
      obtain ⟨quiet, hquiet, hgenuine⟩ := hfirst hbefore
      cases htrained.symm.trans hquiet
      refine ⟨x.loaded, x.saved_after_of_first .enter hbefore hquiet, fun hhome => ?_⟩
      exact ⟨quiet, _, hhome ▸ htimings, rfl, hgenuine _ (h.fresh hbefore).2⟩

/-- After the way down trained values are saved. -/
theorem PowersDown.trained_ne_none {current : FrequencyIndex} {timings : PointTimings}
    {h h' : Hardware} {snapshot snapshot' : Snapshot}
    (hdown : c.PowersDown current timings h snapshot h' snapshot') :
    snapshot'.trained ≠ none := by
  obtain ⟨quiet, saved, -, hsaves, -⟩ := hdown
  cases hsaves <;> simp

/-- A call keeps what holds between calls, unless it keeps the session. -/
theorem Outcome.sourced {request : Request} {r : Except TransitionError Unit}
    (houtcome : c.Outcome s request r s') (hclear : c.table.KeepsClear)
    (happart : ∀ timings ∈ c.table.points, timings.TrainedApart) (horderly : c.Orderly s)
    (h : c.Sourced boot found s x) (hfree : s'.barrier.inProgress = false) :
    c.Sourced boot found s' (x.after request s s') := by
  cases houtcome with
  | refused => rwa [Origin.after_self]
  | unneeded => rwa [Origin.after_self]
  | moved hmoves hactive hrun hcurrent _ _ hretention =>
      have hready := h.ready hactive
      have hsame : s'.retention.snapshot.trained = s.retention.snapshot.trained := by
        rw [hretention]
      refine ⟨h.unpinned.ensures _ _ _ hrun,
        fun _ => hready.ensures_ready (hmoves.within hclear) _ _ hrun, fun hnone => ?_,
        fun trained htrained => ?_⟩
      · obtain ⟨hsaved, hgenuine⟩ := h.fresh (hsame.symm.trans hnone)
        exact ⟨(x.saved_after_of_eq request hsame).trans hsaved,
          hmoves.genuine hclear hready hrun hcurrent hgenuine⟩
      · rw [x.saved_after_of_eq request hsame]
        exact h.labelled trained (hsame.symm.trans htrained)
  | lowered htimings _ hactive hdown hstate =>
      exact ⟨hdown.unpinned h.unpinned, fun hactive' => (nomatch hstate.symm.trans hactive'),
        fun hnone => absurd hnone hdown.trained_ne_none,
        fun trained htrained => h.saved_down hclear hactive htimings hdown htrained⟩
  | raised hretained htimings hrun hretention =>
      have hsame : s'.retention.snapshot.trained = s.retention.snapshot.trained := by
        rw [hretention]
      obtain ⟨trained, hsaved, -⟩ := (horderly.sealed hretained).saved
      refine ⟨h.unpinned.ensures _ _ _ hrun, fun _ => ?_, fun hnone => ?_,
        fun trained' htrained => ?_⟩
      · exact (h.unpinned.ensures_powerUp_trained (hclear.timings htimings)
          (happart _ (List.mem_of_getElem? htimings)) _ _ hrun () rfl).1
      · cases (hsame.symm.trans hnone).symm.trans hsaved
      · rw [x.saved_after_of_eq .exit hsame]
        exact h.labelled trained' (hsame.symm.trans htrained)
  | corrupted hretained hmissing =>
      obtain ⟨hfrequency, ⟨timings, htimings⟩, -⟩ := horderly.sealed hretained
      cases hmissing.symm.trans (hfrequency ▸ htimings)
  | wedged htaken => cases htaken.symm.trans hfree

/-- A subsystem that holds the programs of a point, with trained values of its own. -/
def bootedWith (timings : PointTimings) (found : List UInt32) : Hardware :=
  (bootedAt timings).preload .phy (Sequences.trainedProgram timings (some found))

/-- **What holds between calls** of a controller that has booted at a point of its table. -/
theorem sourced_of_traces {timings : PointTimings} (hclear : c.table.KeepsClear)
    (happart : ∀ timings ∈ c.table.points, timings.TrainedApart)
    (htimings : c.table.timings? boot = some timings)
    (h : c.Traces (System.start (bootedWith timings found) c.coreCount boot) s x)
    (hfree : s.barrier.inProgress = false) : c.Sourced boot found s x := by
  induction h with
  | start =>
      have hkeeps := hclear.timings htimings
      have hboots : (bootedWith timings found).Boots := (boots_bootedAt hkeeps).loaded fun r hr =>
        hkeeps.parts.2.2.1 r (Sequences.mem_registers_of_trainedProgram hr)
      have hunpinned : (bootedWith timings found).Unpinned := by
        obtain ⟨values, hbooted⟩ := exists_bootedAt_eq timings
        obtain ⟨values', hloaded⟩ := exists_preload_eq (bootedAt timings) .phy
          (Sequences.trainedProgram timings (some found))
        intro r
        rw [bootedWith, hloaded, hbooted]
        rfl
      exact ⟨hunpinned, fun _ => ⟨hboots.sound, hunpinned⟩,
        fun _ => ⟨rfl, timings, htimings, .inr ⟨rfl, holds_preload _ _ _⟩⟩, nofun⟩
  | @call s s' x r core request hs hrun ih =>
      have hfollows := hs.follows
      rcases outcome_of_call (reached_of_follows hfollows) hrun with
        ⟨htaken, rfl, -⟩ | ⟨hbefore, houtcome⟩
      · cases htaken.symm.trans hfree
      · exact houtcome.sourced hclear happart
          (orderly_of_follows hfollows (orderly_start _ _)) (ih hbefore) hfree

/-! ### What is restored -/

/-- At the point of their label the saved values are put back. -/
theorem trainedProgram_trainedAt {snapshot : Snapshot} {timings : PointTimings}
    {trained : TrainedValues} (hsaved : snapshot.trained = some trained)
    (hlength : trained.values.length = timings.phyTrained.length) :
    Sequences.trainedProgram timings (snapshot.trainedAt trained.frequency) =
      Sequences.trainedProgram timings (some trained.values) := by
  simp only [Snapshot.trainedAt, hsaved]
  by_cases hvalues : trained.values = []
  · -- Without values there is nothing to put back, nor is there anything in the table.
    have hnone : timings.phyTrained = [] := by
      rw [← List.length_eq_zero_iff, ← hlength, hvalues, List.length_nil]
    rw [if_neg fun hboth => hboth.2 hvalues, hvalues]
    simp only [Sequences.trainedProgram, hnone, List.zipWith_nil_right]
  · rw [if_pos ⟨trivial, hvalues⟩]

/-- **After the way up the trained values belong to the current point**, unless they bear a wrong
label.  A controller boots at a point of its table, with whatever trained values at the point's
registers.  Whenever a way up succeeds after any calls, there are saved values.  At another point
than that of their label the PHY holds the values of the table; at that of their label it holds the
saved ones.  In the first case, and in the second if the PHY had been programmed for the point of
the label when they were saved, these are the values of the table for the current point, or, at the
point that it has booted at, those that were found there. -/
theorem restored_belong {timings : PointTimings} (hclear : c.table.KeepsClear)
    (happart : ∀ timings ∈ c.table.points, timings.TrainedApart)
    (htimings : c.table.timings? boot = some timings)
    (h : c.Traces (System.start (bootedWith timings found) c.coreCount boot) s x) {core : Nat}
    (hrun : System.run (c.operation core .exit) s = .ok (.ok ()) s') :
    ∃ current trained home, c.table.timings? s'.barrier.current = some current ∧
      s.retention.snapshot.trained = some trained ∧ x.saved = some home ∧
        (s'.barrier.current ≠ trained.frequency → s'.hardware.Holds .phy current.phyTrained) ∧
        (s'.barrier.current = trained.frequency →
          trained.values.length = current.phyTrained.length ∧ s'.hardware.Holds .phy
            (Sequences.trainedProgram current (some trained.values))) ∧
        (s'.barrier.current ≠ trained.frequency ∨ home = trained.frequency →
          c.Genuine boot found s'.hardware s'.barrier.current) := by
  have hfollows := h.follows
  have horderly := orderly_of_follows hfollows (orderly_start _ boot)
  obtain ⟨hretained, hactive'⟩ := states_of_exitRetention (c := c) hrun
  rcases outcome_of_call (reached_of_follows hfollows) hrun with
    ⟨-, -, e, -, he⟩ | ⟨hfree, houtcome⟩
  · cases he
  have hsourced := sourced_of_traces hclear happart htimings h hfree
  obtain ⟨-, -, trained, hsaved, hsuits⟩ := horderly.sealed hretained
  have hsaved : s.retention.snapshot.trained = some trained := hsaved
  obtain ⟨home, hhome, hhonest⟩ := hsourced.labelled trained hsaved
  cases houtcome with
  | unneeded => cases hretained.symm.trans hactive'
  | moved hmoves => cases hmoves
  | @raised current _ _ hcurrent hup hretention hbarrier =>
      have hpoint : s'.barrier.current = s.retention.snapshot.frequency := by rw [hbarrier]
      have hholds := (hsourced.unpinned.ensures_powerUp_trained (hclear.timings hcurrent)
        (happart _ (List.mem_of_getElem? hcurrent)) _ _ hup () rfl).2
      rw [hpoint]
      have hforeign : s.retention.snapshot.frequency ≠ trained.frequency →
          s'.hardware.Holds .phy current.phyTrained := fun hother => by
        rw [trainedAt_of_ne hsaved hother.symm] at hholds
        exact hholds
      have hown : s.retention.snapshot.frequency = trained.frequency →
          trained.values.length = current.phyTrained.length ∧ s'.hardware.Holds .phy
            (Sequences.trainedProgram current (some trained.values)) := fun hsame => by
        obtain ⟨labelled, hlabelled, hlength, -⟩ := hsuits
        rw [hsame] at hcurrent hholds
        cases hcurrent.symm.trans hlabelled
        rw [trainedProgram_trainedAt hsaved hlength] at hholds
        exact ⟨hlength, hholds⟩
      refine ⟨current, trained, home, hcurrent, hsaved, hhome, hforeign, hown, ?_⟩
      by_cases hsame : s.retention.snapshot.frequency = trained.frequency
      · intro hlabel
        have hhome' : home = trained.frequency := hlabel.resolve_left (not_not.2 hsame)
        obtain ⟨quiet, timings', htimings', hvalues, hgenuine⟩ := hhonest hhome'
        rw [hhome', ← hsame] at htimings' hgenuine
        cases hcurrent.symm.trans htimings'
        have hback := (hown hsame).2
        rw [hvalues] at hback
        exact hgenuine.readBack hcurrent hback
      · exact fun _ => ⟨current, hcurrent, .inl (hforeign hsame)⟩

/-- The sample board is powered down and up again as it has booted, with values of its own. -/
theorem restored_belong_booted :
    ∃ s₁ s₂, Board.controller.Traces (System.start
        (bootedWith (Board.samplePoint 3200 false) [1, 2, 3, 4]) Board.coreCount ⟨0⟩) s₁
          ⟨⟨0⟩, some ⟨0⟩⟩ ∧
      System.run (Board.controller.operation 0 .exit) s₁ = .ok (.ok ()) s₂ ∧
        Board.controller.Genuine ⟨0⟩ [1, 2, 3, 4] s₂.hardware s₂.barrier.current := by
  obtain ⟨_, s₁, henter, hs₁⟩ : (Board.controller.operation 0 .enter).Completes System.answer
      (System.start (bootedWith (Board.samplePoint 3200 false) [1, 2, 3, 4]) Board.coreCount ⟨0⟩)
        fun _ s => (decide (s.retention.snapshot.trained = some ⟨⟨0⟩, [1, 2, 3, 4]⟩) &&
          (Procedure.finished? (System.run (Board.controller.operation 0 .exit) s)).isSome) =
            true :=
    Procedure.completes_of_finished? (by decide +kernel)
  rw [Bool.and_eq_true, decide_eq_true_eq] at hs₁
  obtain ⟨hsaved, hexit⟩ := hs₁
  obtain ⟨_, s₂, hrun, -⟩ : (Board.controller.operation 0 .exit).Completes System.answer s₁
      fun _ _ => true = true :=
    Procedure.completes_of_finished? (by rw [Option.any_true]; exact hexit)
  have htraces := (Traces.start (c := Board.controller)).call 0 .enter henter
  have horigin : (Origin.after ⟨⟨0⟩, none⟩ .enter (System.start
      (bootedWith (Board.samplePoint 3200 false) [1, 2, 3, 4]) Board.coreCount ⟨0⟩) s₁) =
        ⟨⟨0⟩, some ⟨0⟩⟩ := by
    simp only [Origin.after, hsaved]
    rfl
  have htraces' := horigin ▸ htraces
  obtain ⟨current, trained, home, -, htrained, hhome, -, -, hgenuine⟩ := restored_belong
    Board.sampleTable_keepsClear (by decide) rfl htraces' hrun
  cases hhome
  cases hsaved.symm.trans htrained
  exact ⟨s₁, s₂, htraces', hrun, hgenuine (.inr rfl)⟩

/-- The sequencer moves the sample board from the point that it has booted at to that of half speed.
Then the board is powered down and up again, and the PHY holds the values of the first point at the
second. -/
theorem values_at_another_point :
    ∃ s₁ s₂ s₃, System.run (Board.controller.operation 0 (.fast .half ⟨0x7⟩)) (System.start
        (bootedWith (Board.samplePoint 3200 false) [1, 2, 3, 4]) Board.coreCount ⟨0⟩) =
          .ok (.ok ()) s₁ ∧
      System.run (Board.controller.operation 0 .enter) s₁ = .ok (.ok ()) s₂ ∧
        System.run (Board.controller.operation 0 .exit) s₂ = .ok (.ok ()) s₃ ∧
          s₃.barrier.current = ⟨1⟩ ∧
            ¬ Board.controller.Genuine ⟨0⟩ [1, 2, 3, 4] s₃.hardware s₃.barrier.current := by
  obtain ⟨_, s₁, hfast, hs₁⟩ : (Board.controller.operation 0 (.fast .half ⟨0x7⟩)).Completes
      System.answer (System.start (bootedWith (Board.samplePoint 3200 false) [1, 2, 3, 4])
        Board.coreCount ⟨0⟩) fun _ s => ((Procedure.finished?
          (System.run (Board.controller.operation 0 .enter) s)).any fun s => (Procedure.finished?
            (System.run (Board.controller.operation 0 .exit) s)).any fun s =>
              decide (s.barrier.current = ⟨1⟩ ∧ s.hardware.value ⟨.phy, 0x200b2⟩ = 1)) = true :=
    Procedure.completes_of_finished? (by decide +kernel)
  obtain ⟨_, s₂, henter, hs₂⟩ := Procedure.completes_of_finished? hs₁
  obtain ⟨_, s₃, hexit, hs₃⟩ := Procedure.completes_of_finished? hs₂
  obtain ⟨hcurrent, hvalue⟩ := of_decide_eq_true hs₃
  refine ⟨s₁, s₂, s₃, hfast, henter, hexit, hcurrent, ?_⟩
  rw [hcurrent]
  rintro ⟨timings, htimings, hholds | ⟨hboot, -⟩⟩
  · cases (show Board.controller.table.timings? ⟨1⟩ = some (Board.samplePoint 1600 false) from
      rfl).symm.trans htimings
    have htable := hholds 0x200b2 0x6400a (by decide)
    rw [hvalue] at htable
    exact absurd htable (by decide)
  · exact absurd hboot (by decide)

end Controller

end Reclock
