/-
**What the hardware sequencer has been told.**

The speed that the sequencer applies is selected by a bit of its own, and the current point of the
subsystem is recorded in memory.  The two are written on different ways: a switch of the speed
writes both, a switch of the frequency only the record.  Whether a switch of the speed has anything
to do is decided by the record alone.

So the two can drift apart.  What the sequencer has been told depends on the speed of its last run,
and what the record says on whether software has moved the point since.  Both are followed here
along any calls, and from them the bit is known after every switch of the speed that succeeds.

Main definitions:

* `Reclock.Hardware.Told` — the speed that the sequencer has been told;
* `Reclock.Selection`, `Reclock.Controller.Selects` — **what calls have told the sequencer**, and
  whether software has overtaken it.

Main results:

* `Reclock.Controller.tuned_of_selects` — between calls the sequencer has been told what its last
  run told it;
* `Reclock.Controller.sequencer_agrees` — **after a switch of the speed the sequencer agrees with
  it**, if it has run or software has not overtaken it.
-/

import Reclock.Proofs.History
import Reclock.Proofs.Refusal

set_option relaxedAutoImplicit false
set_option autoImplicit false

namespace Reclock

/-! ### The sequencer -/

namespace Hardware

open Procedure Sequences

variable {h h' : Hardware} {config : Config} {speed : Speed}

/-- **The sequencer has been told a speed**, and is not asked to stop. -/
structure Told (h : Hardware) (speed : Speed) : Prop where
  going : h.value FastSwitch.ctrl &&& FastSwitch.stopRequest = 0
  speed : h.value FastSwitch.ctrl &&& FastSwitch.halfSpeed ≠ 0 ↔ speed = .half

/-- It depends on one register only. -/
theorem Told.of_value (htold : h.Told speed)
    (hvalue : h'.value FastSwitch.ctrl = h.value FastSwitch.ctrl) : h'.Told speed :=
  ⟨hvalue ▸ htold.going, hvalue ▸ htold.speed⟩

/-- What is told the sequencer stays so while other registers are written. -/
theorem Told.leaves {ε α : Type} {p : Sequence ε α}
    (hwithin : p.Within (Access.Writes (· ≠ FastSwitch.ctrl))) (htold : h.Told speed) :
    p.Ensures RegisterFile.answer h fun _ h' => h'.Told speed :=
  (hwithin.outlasts rfl (by decide)).mono fun _ _ hvalue => htold.of_value hvalue

/-- The bits that a speed leaves in the control word, whatever was there before. -/
def speedWord : Speed → UInt32 → UInt32
  | .full, v => v &&& ~~~FastSwitch.halfSpeed
  | .half, v => v ||| FastSwitch.halfSpeed

theorem speedWord_and (v : UInt32) :
    speedWord speed v &&& FastSwitch.halfSpeed ≠ 0 ↔ speed = .half := by
  cases speed with
  | full => simp [speedWord]
  | half =>
      have hbit : FastSwitch.halfSpeed ≠ 0 := by decide
      simp [speedWord, hbit]

/-- Without pins a control register outside the power domain holds what it is modified to. -/
theorem Unpinned.completes_modify_speed (hunpinned : h.Unpinned) (f : UInt32 → UInt32) :
    (Sequence.modify FastSwitch.ctrl f : Timed Unit).Completes RegisterFile.answer h fun _ h' =>
      h'.Unpinned ∧ h'.value FastSwitch.ctrl = f (h.value FastSwitch.ctrl) := by
  refine (hunpinned.open_outside rfl).completes_modify (by decide) fun writes =>
    ⟨_, effect_speedControl _ _, hunpinned, ?_⟩
  rw [value_store_of_ne (by decide), value_store_self]

/-- A wait changes neither the sequencer nor the pins. -/
theorem Unpinned.ensures_wait (hunpinned : h.Unpinned) (r : Register) (condition : UInt32 → Bool) :
    (wait config r condition).Ensures RegisterFile.answer h fun _ h' =>
      h'.Unpinned ∧ h'.value FastSwitch.ctrl = h.value FastSwitch.ctrl := by
  have hwithin : (wait config r condition).Within (Access.Writes fun _ => False) := within_wait _ _
  refine (hwithin.kept nofun).mono fun _ h' hkept => ⟨hkept.unpinned hunpinned, ?_⟩
  exact hkept.unwritten (by decide) id

/-- **The handshake tells the sequencer the speed**, whatever it was told before. -/
theorem Unpinned.ensures_switchSpeed (hunpinned : h.Unpinned) :
    (switchSpeed config speed).Ensures RegisterFile.answer h fun r h' =>
      r = .ok () → h'.Told speed := by
  refine (hunpinned.ensures_wait _ _).andThen (fun _ h₁ hend₁ => ?_) fun _ _ _ => nofun
  obtain ⟨hunpinned₁, -⟩ := hend₁
  have hselect : (selectSpeed speed).Completes RegisterFile.answer h₁ fun _ h₂ =>
      h₂.Unpinned ∧ h₂.value FastSwitch.ctrl = speedWord speed (h₁.value FastSwitch.ctrl) := by
    cases speed with
    | full => exact hunpinned₁.completes_modify_speed _
    | half => exact hunpinned₁.completes_modify_speed _
  refine hselect.ensures.andThen (fun _ h₂ hend₂ => ?_) fun _ _ hend => nomatch hend.choose_spec.1
  obtain ⟨-, -, hunpinned₂, hctrl₂⟩ := hend₂
  refine (hunpinned₂.completes_modify_speed _).ensures.andThen (fun _ h₃ hend₃ => ?_)
    fun _ _ hend => nomatch hend.choose_spec.1
  obtain ⟨-, -, hunpinned₃, hctrl₃⟩ := hend₃
  refine (hunpinned₃.ensures_wait _ _).andThen (fun _ h₄ hend₄ => ?_) fun _ _ _ => nofun
  obtain ⟨hunpinned₄, hctrl₄⟩ := hend₄
  refine (hunpinned₄.completes_modify_speed _).ensures.andThen (fun _ h₅ hend₅ => ?_)
    fun _ _ hend => nomatch hend.choose_spec.1
  obtain ⟨-, -, hunpinned₅, hctrl₅⟩ := hend₅
  refine (hunpinned₅.ensures_wait _ _).mono fun _ h' hend _ => ⟨?_, ?_⟩
  · rw [hend.2, hctrl₅, Word.clear_and]
  · -- The stop request is another bit than the speed.
    rw [hend.2, hctrl₅, hctrl₄, hctrl₃, Word.clear_and_apart _ (by decide),
      Word.set_and_apart _ (by decide), hctrl₂]
    exact speedWord_and _

end Hardware

/-! ### Calls -/

/-- **What calls have told the sequencer**: the speed of its last run, and whether software has
moved the point since. -/
structure Selection where
  /-- The speed of the last run, or full speed before the first. -/
  speed : Speed
  /-- Whether software has moved the point since. -/
  overtaken : Bool

/-- The two points of a pair tell its speeds apart. -/
theorem FastPair.eq_of_point {pair : FastPair} (hapart : pair.full ≠ pair.half) {a b : Speed}
    (h : pair.point a = pair.point b) : a = b := by
  cases a with
  | full =>
      cases b with
      | full => rfl
      | half => exact absurd h hapart
  | half =>
      cases b with
      | full => exact absurd h.symm hapart
      | half => rfl

/-- What becomes of it by a call, of which it is known whether it moves the point. -/
def Selection.after (x : Selection) : Request → Bool → Selection
  | .fast speed _, true => ⟨speed, false⟩
  | .switch _ _, true => ⟨x.speed, true⟩
  | _, _ => x

/-- A call that does not move the point changes nothing about it. -/
@[simp] theorem Selection.after_false (x : Selection) (request : Request) :
    x.after request false = x := by
  cases request <;> rfl

namespace Controller

open Hardware

section Calls

variable {H : Type} [RegisterFile H] {c : Controller} {s₀ s s' : System H} {x : Selection}

/-- **The systems that calls lead to, with what they have told the sequencer**, of which nothing is
known at the start but that it runs at full speed. -/
inductive Selects (c : Controller) (s₀ : System H) : System H → Selection → Prop
  | start : Selects c s₀ s₀ ⟨.full, false⟩
  | call {s s' : System H} {x : Selection} {r : Except TransitionError Unit} (core : Nat)
      (request : Request) (h : Selects c s₀ s x)
      (hrun : System.run (c.operation core request) s = .ok r s') :
      Selects c s₀ s' (x.after request (s'.barrier.current ≠ s.barrier.current))

/-- They are the systems that calls lead to. -/
theorem Selects.follows (h : c.Selects s₀ s x) : c.Follows s₀ s := by
  induction h with
  | start => exact .refl
  | call core request _ hrun ih => exact .call core request ih hrun

/-- Whatever the calls, they have told the sequencer something. -/
theorem Follows.selects (h : c.Follows s₀ s) : ∃ x, c.Selects s₀ s x := by
  induction h with
  | refl => exact ⟨_, .start⟩
  | call core request _ hrun ih =>
      obtain ⟨x, hx⟩ := ih
      exact ⟨_, hx.call core request hrun⟩

/-- A switch of the speed that has run ends at its target. -/
theorem ensures_current_fastSwitchTo (core : Nat) (target : FrequencyIndex) (speed : Speed)
    (online : CoreMask) (s : System H) :
    (c.fastSwitchTo core target speed online).Ensures System.answer s fun r s' =>
      ∀ u, r = .ok u → s'.barrier.current = target := by
  refine Procedure.ensures_last fun _ s₁ => Procedure.ensures_last fun _ s₂ =>
    Procedure.ensures_last fun outcome s₃ => ?_
  cases outcome with
  | error t => exact Procedure.ensures_last fun _ s₄ => Procedure.ensures_of_run rfl nofun
  | ok _ =>
      refine Procedure.ensures_last fun _ s₄ => ?_
      exact Procedure.ensures_of_run (System.run_finish target s₄) fun _ _ => rfl

/-- **A switch of the speed that succeeds ends at the point of the speed.** -/
theorem current_of_fastSwitch {pair : FastPair} (hpair : c.table.fast = some pair) {core : Nat}
    {speed : Speed} {online : CoreMask}
    (hrun : System.run (c.operation core (.fast speed online)) s = .ok (.ok ()) s') :
    s'.barrier.current = pair.point speed := by
  have hends : (c.fastSwitch core speed online).Ensures System.answer s fun r s' =>
      ∀ u, r = .ok u → s'.barrier.current = pair.point speed := by
    have hcurrent : System.run (Operation.currentFrequency :
        Operation TransitionError FrequencyIndex) s = .ok (.ok s.barrier.current) s := rfl
    unfold fastSwitch
    rw [hpair]
    refine Procedure.ensures_bind_of_run hcurrent ?_
    refine Procedure.ensures_bind_of_run (a := pair) rfl ?_
    refine Procedure.ensures_last fun _ s₁ => ?_
    have hbegin := System.run_beginActive s₁
    by_cases hfree : s₁.barrier.inProgress = false ∧ s₁.retention.state = .active
    case neg =>
      rw [if_neg hfree] at hbegin
      exact Procedure.ensures_of_run (Procedure.run_bind_of_error hbegin) nofun
    rw [if_pos hfree] at hbegin
    refine Procedure.ensures_bind_of_run hbegin ?_
    dsimp only
    split
    · exact Procedure.ensures_of_run (System.run_refuse hfree.1 _) nofun
    · split
      case isTrue hthere =>
        exact Procedure.ensures_of_run (System.run_cancel hfree.1) fun _ _ => hthere
      case isFalse => exact ensures_current_fastSwitchTo core _ speed online _
  exact hends _ _ hrun () rfl

end Calls

variable {c : Controller} {s s' : System Hardware} {pair : FastPair} {x : Selection}

/-- The register sequence of a software switch has nothing to do with the sequencer. -/
theorem within_switchPoint_apart {leavingBypass : Bool} {point : FrequencyPoint}
    {timings : PointTimings} :
    (Sequences.switchPoint c.config leavingBypass point timings).Within
      (Access.Writes (· ≠ FastSwitch.ctrl)) := by
  refine Sequences.within_switchPoint (fun port => ?_) (by decide) (fun r hr => ?_) (by decide)
  · exact fun heq => nomatch congrArg Register.window heq
  · rintro rfl
    cases PointTimings.inDramDomain_of_mem hr

/-- Neither has the way up. -/
theorem within_powerUp_apart {point : FrequencyPoint} {timings : PointTimings}
    {trained : Option (List UInt32)} :
    (Sequences.powerUp c.config point timings trained).Within
      (Access.Writes (· ≠ FastSwitch.ctrl)) := by
  refine Sequences.within_powerUp (fun port => ?_) (by decide) fun r hr => ?_
  · exact fun heq => nomatch congrArg Register.window heq
  · rintro rfl
    cases PointTimings.inDramDomain_of_mem hr

/-- Neither has the way down. -/
theorem PowersDown.told {current : FrequencyIndex} {timings : PointTimings} {h h' : Hardware}
    {snapshot snapshot' : Snapshot} {speed : Speed}
    (hdown : c.PowersDown current timings h snapshot h' snapshot') (htold : h.Told speed) :
    h'.Told speed := by
  obtain ⟨quiet, saved, hquiet, hsaves, hoff⟩ := hdown
  have hports : ∀ port, Ddrc.pctrl port ≠ FastSwitch.ctrl := fun port heq =>
    nomatch congrArg Register.window heq
  have htold₁ := htold.leaves (Sequences.within_quietDown hports (by decide) (by decide)
    (by decide)) _ _ hquiet
  have htold₂ : saved.Told speed := by
    cases hsaves with
    | kept => exact htold₁
    | taken _ hread => exact htold₁.leaves (Sequences.within_readTrained (by decide)) _ _ hread
  exact htold₂.leaves (Sequences.within_powerOff (by decide) (by decide) (by decide)) _ _ hoff

/-- **What holds between calls**: the sequencer has been told the speed of its last run, and the
current point is that of the speed unless software has moved it since. -/
structure Tuned (pair : FastPair) (s : System Hardware) (x : Selection) : Prop where
  unpinned : s.hardware.Unpinned
  told : s.hardware.Told x.speed
  point : x.overtaken = false → s.barrier.current = pair.point x.speed

/-- A call keeps what holds between calls, unless it keeps the session. -/
theorem Outcome.tuned {request : Request} {r : Except TransitionError Unit}
    (houtcome : c.Outcome s request r s') (hpair : c.table.fast = some pair)
    (horderly : c.Orderly s) (h : Tuned pair s x) (hfree : s'.barrier.inProgress = false) :
    Tuned pair s' (x.after request (s'.barrier.current ≠ s.barrier.current)) := by
  cases houtcome with
  | refused => simpa using h
  | unneeded => simpa using h
  | moved hmoves _ hrun hcurrent =>
      have hunpinned := h.unpinned.ensures _ _ _ hrun
      cases hmoves with
      | switch _ _ _ hother =>
          rw [hcurrent, decide_eq_true hother.symm]
          exact ⟨hunpinned, h.told.leaves within_switchPoint_apart _ _ hrun, nofun⟩
      | fast hfast _ _ hother =>
          cases hpair.symm.trans hfast
          rw [hcurrent, decide_eq_true hother.symm]
          exact ⟨hunpinned, h.unpinned.ensures_switchSpeed _ _ hrun rfl, fun _ => hcurrent⟩
  | lowered _ _ _ hdown _ hbarrier =>
      have hcurrent : s'.barrier.current = s.barrier.current := by rw [hbarrier]
      simp only [hcurrent, ne_eq, not_true_eq_false, decide_false, Selection.after_false]
      exact ⟨hdown.unpinned h.unpinned, hdown.told h.told, fun hx => hcurrent.trans (h.point hx)⟩
  | raised hretained _ hrun _ hbarrier =>
      -- The snapshot names the point that was current when the power went.
      have hcurrent : s'.barrier.current = s.barrier.current := by
        rw [hbarrier]
        exact (horderly.sealed hretained).frequency
      simp only [hcurrent, ne_eq, not_true_eq_false, decide_false, Selection.after_false]
      exact ⟨h.unpinned.ensures _ _ _ hrun, h.told.leaves within_powerUp_apart _ _ hrun,
        fun hx => hcurrent.trans (h.point hx)⟩
  | corrupted =>
      simp only [ne_eq, not_true_eq_false, decide_false, Selection.after_false]
      exact ⟨h.unpinned, h.told, h.point⟩
  | wedged htaken => cases htaken.symm.trans hfree

/-- **Between calls the sequencer has been told the speed of its last run.** -/
theorem tuned_of_selects {hardware : Hardware} (hpair : c.table.fast = some pair)
    (hunpinned : hardware.Unpinned) (htold : hardware.Told .full)
    (h : c.Selects (System.start hardware c.coreCount pair.full) s x)
    (hfree : s.barrier.inProgress = false) : Tuned pair s x := by
  induction h with
  | start => exact ⟨hunpinned, htold, fun _ => rfl⟩
  | @call s s' x r core request hs hrun ih =>
      have hfollows := hs.follows
      rcases outcome_of_call (reached_of_follows hfollows) hrun with
        ⟨htaken, rfl, -⟩ | ⟨hbefore, houtcome⟩
      · cases htaken.symm.trans hfree
      · exact houtcome.tuned hpair (orderly_of_follows hfollows (orderly_start _ _)) (ih hbefore)
          hfree

/-- **After a switch of the speed the sequencer agrees with it**, if it has run or software has not
overtaken it.  A controller starts at the full speed point of its pair, on hardware without pins
whose sequencer has been told nothing.  Whenever a switch of the speed succeeds after any calls, the
sequencer is not asked to stop.  If another point was current, it has been told the speed.  If the
point of the speed was current already, nothing has happened, and what it has been told is the speed
of its last run, which is the same speed if software has not moved the point since. -/
theorem sequencer_agrees {hardware : Hardware} (hpair : c.table.fast = some pair)
    (hapart : pair.full ≠ pair.half) (hunpinned : hardware.Unpinned) (htold : hardware.Told .full)
    (h : c.Selects (System.start hardware c.coreCount pair.full) s x) {core : Nat} {speed : Speed}
    {online : CoreMask}
    (hrun : System.run (c.operation core (.fast speed online)) s = .ok (.ok ()) s') :
    (s.barrier.current ≠ pair.point speed → s'.hardware.Told speed) ∧
      (s.barrier.current = pair.point speed → s' = s ∧ s'.hardware.Told x.speed ∧
        (x.overtaken = false → s'.hardware.Told speed)) := by
  have hfollows := h.follows
  have horderly := orderly_of_follows hfollows (orderly_start hardware pair.full)
  have hcurrent' := current_of_fastSwitch hpair hrun
  rcases outcome_of_call (reached_of_follows hfollows) hrun with
    ⟨-, -, e, -, he⟩ | ⟨hfree, houtcome⟩
  · cases he
  have htuned := tuned_of_selects hpair hunpinned htold h hfree
  refine ⟨fun hother => ?_, fun hthere => ?_⟩
  -- Only a switch that has run ends at another point.
  · cases houtcome with
    | unneeded => exact absurd hcurrent' hother
    | moved hmoves _ hrun' =>
        cases hmoves with
        | fast => exact htuned.unpinned.ensures_switchSpeed _ _ hrun' rfl
  -- Nothing is done for the point that is current already.
  · have hjudged := judged_operation horderly core (.fast speed online)
    have hgranted : c.refusal s (.fast speed online) = none := by
      cases hreason : c.refusal s (.fast speed online) with
      | none => rfl
      | some e => cases (hjudged.refused e hreason).symm.trans hrun
    cases (hjudged.unneeded hgranted ⟨pair, hpair, hthere⟩).symm.trans hrun
    refine ⟨rfl, htuned.told, fun hx => ?_⟩
    have hspeed := FastPair.eq_of_point hapart ((htuned.point hx).symm.trans hthere)
    exact hspeed ▸ htuned.told

/-- The sample board starts without pins, and its sequencer has been told nothing. -/
theorem unpinned_told_sample : (bootedAt (Board.samplePoint 3200 false)).Unpinned ∧
    (bootedAt (Board.samplePoint 3200 false)).Told .full := by
  obtain ⟨values, heq⟩ := exists_bootedAt_eq (Board.samplePoint 3200 false)
  refine ⟨fun r => ?_, by decide +kernel, by decide +kernel⟩
  rw [heq]
  rfl

/-- On the sample board software moves the point to that of half speed, and a switch to full speed
runs the sequencer, which has been told so then. -/
theorem sequencer_agrees_overtaken :
    ∃ s₁ s₂, Board.controller.Selects
        (System.start (bootedAt (Board.samplePoint 3200 false)) Board.coreCount ⟨0⟩) s₁
          ⟨.full, true⟩ ∧
      System.run (Board.controller.operation 0 (.fast .full ⟨0x7⟩)) s₁ = .ok (.ok ()) s₂ ∧
        s₂.hardware.Told .full := by
  obtain ⟨_, s₁, hswitch, hs₁⟩ : (Board.controller.operation 1 (.switch ⟨1⟩ ⟨0x7⟩)).Completes
      System.answer (System.start (bootedAt (Board.samplePoint 3200 false)) Board.coreCount ⟨0⟩)
        fun _ s => (decide (s.barrier.current = ⟨1⟩) && (Procedure.finished? (System.run
          (Board.controller.operation 0 (.fast .full ⟨0x7⟩)) s)).isSome) = true :=
    Procedure.completes_of_finished? (by decide +kernel)
  rw [Bool.and_eq_true, decide_eq_true_eq] at hs₁
  obtain ⟨hcurrent, hfast⟩ := hs₁
  obtain ⟨_, s₂, hrun, -⟩ : (Board.controller.operation 0 (.fast .full ⟨0x7⟩)).Completes
      System.answer s₁ fun _ _ => true = true :=
    Procedure.completes_of_finished? (by rw [Option.any_true]; exact hfast)
  have hselects : Board.controller.Selects (System.start
      (bootedAt (Board.samplePoint 3200 false)) Board.coreCount ⟨0⟩) s₁ ⟨.full, true⟩ := by
    have hcall := (Selects.start (c := Board.controller)).call 1 (.switch ⟨1⟩ ⟨0x7⟩) hswitch
    rw [hcurrent] at hcall
    exact hcall
  have hpair : Board.controller.table.fast = some ⟨⟨0⟩, ⟨1⟩⟩ := rfl
  have hagrees := sequencer_agrees hpair (by decide) unpinned_told_sample.1
    unpinned_told_sample.2 hselects hrun
  refine ⟨s₁, s₂, hselects, hrun, hagrees.1 ?_⟩
  rw [hcurrent]
  decide

/-- Software moves the sample board to the point of half speed.  A switch to half speed has nothing
to do then, and succeeds; but the sequencer is still told full speed. -/
theorem sequencer_left_behind :
    ∃ s₁ s₂, Board.controller.Follows
        (System.start (bootedAt (Board.samplePoint 3200 false)) Board.coreCount ⟨0⟩) s₁ ∧
      System.run (Board.controller.operation 0 (.fast .half ⟨0x7⟩)) s₁ = .ok (.ok ()) s₂ ∧
        s₂.hardware.value FastSwitch.ctrl &&& FastSwitch.halfSpeed = 0 := by
  obtain ⟨_, s₁, hswitch, hs₁⟩ : (Board.controller.operation 1 (.switch ⟨1⟩ ⟨0x7⟩)).Completes
      System.answer (System.start (bootedAt (Board.samplePoint 3200 false)) Board.coreCount ⟨0⟩)
        fun _ s => ((Procedure.finished? (System.run
          (Board.controller.operation 0 (.fast .half ⟨0x7⟩)) s)).any fun s' =>
            s'.hardware.value FastSwitch.ctrl &&& FastSwitch.halfSpeed == 0) = true :=
    Procedure.completes_of_finished? (by decide +kernel)
  obtain ⟨_, s₂, hfast, hs₂⟩ := Procedure.completes_of_finished? hs₁
  exact ⟨s₁, s₂, .call 1 (.switch ⟨1⟩ ⟨0x7⟩) .refl hswitch, hfast, beq_iff_eq.1 hs₂⟩

end Controller

end Reclock
