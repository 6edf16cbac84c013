/-
**What a transition comes to.**

A transition that is asked for while none is in flight, and while the other cores run their own
programs, either leaves everything as it was, or runs its register sequence to the end and gives
the session back, or times out and keeps the session.  The cases are read off the operations once;
what holds of every run of transitions is derived from the cases, and from what the register
sequences do to the hardware.

Main definitions:

* `Reclock.Controller.Moves` — the register sequence and the target of a switch that is granted;
* `Reclock.Controller.Saves`, `Reclock.Controller.PowersDown` — the way down;
* `Reclock.Controller.Outcome` — **the cases**.

Main results:

* `Reclock.Controller.outcome_of_run` — **every run of a transition is one of the cases**;
* `Reclock.Controller.refuses_operation` — with a session in flight, every transition is refused.
-/

import Reclock.Proofs.Conduct
import Reclock.Proofs.Rest

set_option relaxedAutoImplicit false
set_option autoImplicit false

namespace Reclock

/-- Where a transition that times out leaves retention. -/
def Request.wreck : Request → RetentionState → RetentionState
  | switch _ _, state => state
  | fast _ _, state => state
  | enter, _ => .entering
  | exit, _ => .exiting

/-- Whether a transition parks the other cores. -/
def Request.parks : Request → Bool
  | switch _ _ => true
  | fast _ _ => true
  | enter => false
  | exit => false

namespace System

/-- **A session is in flight** that began in another system, and neither the current point nor the
epoch nor retention has changed since. -/
structure InSession {H : Type} (s s₁ : System H) : Prop where
  taken : s₁.barrier.inProgress = true
  current : s₁.barrier.current = s.barrier.current
  epoch : s₁.barrier.epoch = s.barrier.epoch
  retention : s₁.retention = s.retention
  cores : s₁.cores.length = s.cores.length

end System

namespace Controller

open Operation

variable {H : Type} [RegisterFile H] {c : Controller} {s : System H}

/-- A set is admitted if it names cores of the system only. -/
theorem admits_iff {online : CoreMask} :
    c.admits online = true ↔ ∀ k, online.contains k = true → k < c.coreCount := by
  rw [admits, CoreMask.containsAll_iff]
  refine forall₂_congr fun k hk => ?_
  rw [CoreMask.contains_all, Bool.and_eq_true, decide_eq_true_eq, decide_eq_true_eq]
  exact and_iff_left (CoreMask.lt_of_contains hk)

/-! ### The cases -/

/-- The register sequence of a switch that is granted, and the point that it leads to. -/
inductive Moves {H : Type} (c : Controller) (s : System H) :
    Request → Sequences.Timed Unit → FrequencyIndex → Prop
  | switch {target : FrequencyIndex} {online : CoreMask} {timings : PointTimings}
      (htimings : c.table.timings? target = some timings) (hswitchable : timings.switchable = true)
      (honline : c.admits online = true) (hother : s.barrier.current ≠ target) :
      Moves c s (.switch target online)
        (Sequences.switchPoint c.config
          (((c.table.timings? s.barrier.current).map (·.bypass)).getD false)
          (timings.point target) timings) target
  | fast {speed : Speed} {online : CoreMask} {pair : FastPair} (hpair : c.table.fast = some pair)
      (honline : c.admits online = true)
      (hpoint : s.barrier.current = pair.full ∨ s.barrier.current = pair.half)
      (hother : s.barrier.current ≠ pair.point speed) :
      Moves c s (.fast speed online) (Sequences.switchSpeed c.config speed) (pair.point speed)

/-- What becomes of the snapshot on the way down, and of the hardware. -/
inductive Saves (current : FrequencyIndex) (timings : PointTimings) (snapshot : Snapshot)
    (hardware : H) : H → Snapshot → Prop
  | kept {trained : TrainedValues} (htrained : snapshot.trained = some trained) :
      Saves current timings snapshot hardware hardware ⟨current, some trained⟩
  | taken {values : List UInt32} {hardware' : H} (htrained : snapshot.trained = none)
      (hread : RegisterFile.run (Sequences.readTrained timings) hardware =
        .ok (.ok values) hardware') :
      Saves current timings snapshot hardware hardware' ⟨current, some ⟨current, values⟩⟩

/-- However the PHY answers, there are as many values as the point has. -/
theorem ensures_readTrained (timings : PointTimings) (hardware : H) :
    (Sequences.readTrained timings).Ensures RegisterFile.answer hardware fun r _ =>
      ∀ values, r = .ok values → values.length = timings.phyTrained.length := by
  refine Procedure.Ensures.andThen (P := fun _ _ => True) (fun _ _ _ => trivial)
    (fun _ hardware₁ _ => ?_) fun _ _ _ => nofun
  refine (Procedure.ensures_collect_length _ _ hardware₁).andThen
    (fun values hardware₂ hlength => ?_) fun _ _ _ => nofun
  refine Procedure.Ensures.andThen (P := fun _ _ => True) (fun _ _ _ => trivial)
    (fun _ hardware₃ _ => ?_) fun _ _ _ => nofun
  refine Procedure.ensures_of_run rfl fun all hall => ?_
  cases hall
  exact hlength values rfl

/-- **The way down**, from hardware and snapshot to hardware and snapshot. -/
def PowersDown (c : Controller) (current : FrequencyIndex) (timings : PointTimings)
    (hardware : H) (snapshot : Snapshot) (hardware' : H) (snapshot' : Snapshot) : Prop :=
  ∃ quiet saved : H,
    RegisterFile.run (Sequences.quietDown c.config) hardware = .ok (.ok ()) quiet ∧
      Saves current timings snapshot quiet saved snapshot' ∧
        RegisterFile.run (Sequences.powerOff c.config) saved = .ok (.ok ()) hardware'

/-- **What a transition comes to**, in a system whose session is free and whose cores are calm. -/
inductive Outcome (c : Controller) (s : System H) :
    Request → Except TransitionError Unit → System H → Prop
  | refused {request : Request} {e : TransitionError} (herror : ∀ t, e ≠ .pollTimeout t) :
      Outcome c s request (.error e) s
  | unneeded {request : Request} : Outcome c s request (.ok ()) s
  | moved {request : Request} {p : Sequences.Timed Unit} {target : FrequencyIndex} {s' : System H}
      (hmoves : c.Moves s request p target) (hactive : s.retention.state = .active)
      (hrun : RegisterFile.run p s.hardware = .ok (.ok ()) s'.hardware)
      (hcurrent : s'.barrier.current = target) (hfree : s'.barrier.inProgress = false)
      (hcalm : s'.Calm) (hretention : s'.retention = s.retention)
      (hcores : s'.cores.length = s.cores.length) : Outcome c s request (.ok ()) s'
  | lowered {timings : PointTimings} {s' : System H}
      (htimings : c.table.timings? s.barrier.current = some timings)
      (hretainable : timings.retainable = true) (hactive : s.retention.state = .active)
      (hdown : c.PowersDown s.barrier.current timings s.hardware s.retention.snapshot s'.hardware
        s'.retention.snapshot)
      (hstate : s'.retention.state = .retained) (hbarrier : s'.barrier = s.barrier)
      (hcores : s'.cores = s.cores) : Outcome c s .enter (.ok ()) s'
  | raised {timings : PointTimings} {s' : System H} (hretained : s.retention.state = .retained)
      (htimings : c.table.timings? s.retention.snapshot.frequency = some timings)
      (hrun : RegisterFile.run (Sequences.powerUp c.config
        (timings.point s.retention.snapshot.frequency) timings
        (s.retention.snapshot.trainedAt s.retention.snapshot.frequency)) s.hardware =
          .ok (.ok ()) s'.hardware)
      (hretention : s'.retention = { s.retention with state := .active })
      (hbarrier : s'.barrier = { s.barrier with current := s.retention.snapshot.frequency })
      (hcores : s'.cores = s.cores) : Outcome c s .exit (.ok ()) s'
  | corrupted {e : TransitionError} (hretained : s.retention.state = .retained)
      (hmissing : c.table.timings? s.retention.snapshot.frequency = none)
      (herror : ∀ t, e ≠ .pollTimeout t) :
      Outcome c s .exit (.error e) { s with retention := { s.retention with state := .exiting } }
  | wedged {request : Request} {t : PollTimeout} {s' : System H}
      (htaken : s'.barrier.inProgress = true) (hcurrent : s'.barrier.current = s.barrier.current)
      (hepoch : s'.barrier.epoch = s.barrier.epoch)
      (hstate : s'.retention.state = request.wreck s.retention.state)
      (hcores : if request.parks then s'.Held else s'.Calm) :
      Outcome c s request (.error (.pollTimeout t)) s'

/-! ### Switches -/

/-- Where the register sequence of a switch starts: in a session, with the cores parked. -/
structure Starts {H : Type} (s s₁ : System H) : Prop where
  inSession : s.InSession s₁
  held : s₁.Held
  hardware : s₁.hardware = s.hardware

/-- The end of a switch whose register sequence has timed out. -/
theorem ensures_giveUp {request : Request} {s₁ : System H} (t : PollTimeout) (message : String)
    (hin : s.InSession s₁) (hheld : s₁.Held) (hparks : request.parks = true)
    (hwreck : request.wreck s.retention.state = s.retention.state) :
    (do log .error message
        .fail (.pollTimeout t) : Operation TransitionError Unit).Ensures System.answer s₁
      (c.Outcome s request) := by
  refine System.ensures_log fun events => Procedure.ensures_of_run rfl ?_
  refine .wedged hin.taken hin.current hin.epoch ?_ ?_
  · rw [hwreck, ← hin.retention]
  · rw [if_pos hparks]
    exact hheld

/-- **The end of a switch lets the cores go** and gives the session back, at another point. -/
structure Lands {H : Type} (s : System H) (target : FrequencyIndex) (s' : System H) : Prop where
  hardware : s'.hardware = s.hardware
  current : s'.barrier.current = target
  free : s'.barrier.inProgress = false
  calm : s'.Calm
  retention : s'.retention = s.retention
  cores : s'.cores.length = s.cores.length

theorem Lands.relog {H : Type} {s s' : System H} {target : FrequencyIndex} (h : Lands s target s')
    (events : Array Event) : Lands s target { s' with events } :=
  ⟨h.hardware, h.current, h.free, h.calm, h.retention, h.cores⟩

theorem completes_letGo (hheld : s.Held) (target : FrequencyIndex) :
    (do release
        Session.finish target : Operation TransitionError Unit).Completes System.answer s
      fun _ s' => Lands s target s' := by
  refine (System.completes_release hheld).andThen fun _ s₂ hreleased => ?_
  obtain ⟨⟨cores, arrived, events, rfl, hlength⟩, hcalm⟩ := hreleased
  exact Procedure.completes_of_run (System.run_finish target _) ⟨rfl, rfl, rfl, hcalm, rfl, hlength⟩

/-- A switch that lands has moved to its target. -/
theorem Lands.moved {request : Request} {p : Sequences.Timed Unit} {target : FrequencyIndex}
    {s₁ s' : System H} (hlands : Lands s₁ target s') (hmoves : c.Moves s request p target)
    (hactive : s.retention.state = .active) (hin : s.InSession s₁)
    (hrun : RegisterFile.run p s.hardware = .ok (.ok ()) s₁.hardware) :
    c.Outcome s request (.ok ()) s' :=
  .moved hmoves hactive (hlands.hardware ▸ hrun) hlands.current hlands.free hlands.calm
    (hlands.retention.trans hin.retention) (hlands.cores.trans hin.cores)

/-- A switch, once its register sequence has run. -/
theorem ensures_conclude {request : Request} {p : Sequences.Timed Unit} {target : FrequencyIndex}
    {s₁ : System H} {failure : PollTimeout → String} {final : Operation TransitionError Unit}
    (hmoves : c.Moves s request p target) (hactive : s.retention.state = .active)
    (hstart : Starts s s₁)
    (hfinal : ∀ s', (∀ events, c.Outcome s request (.ok ()) { s' with events }) →
      final.Ensures System.answer s' (c.Outcome s request)) :
    (do let outcome ← Procedure.attempt (registers p)
        match outcome with
        | .error t => do
            log .error (failure t)
            .fail (.pollTimeout t)
        | .ok () => do
            release
            Session.finish target
            final : Operation TransitionError Unit).Ensures System.answer s₁
      (c.Outcome s request) := by
  have hp : p.Ensures RegisterFile.answer s₁.hardware fun r hardware =>
      RegisterFile.run p s.hardware = .ok r hardware := by
    intro r hardware hrun
    rw [← hstart.hardware]
    exact hrun
  have hattempt : (Procedure.attempt (registers p) : Operation TransitionError _).Ensures
      System.answer s₁ fun outcome s₂ => ∃ r, outcome = .ok r ∧ ∃ hardware events,
        s₂ = { s₁ with hardware, events } ∧ RegisterFile.run p s.hardware = .ok r hardware :=
    ((System.ensures_registers hp).mono fun r s₂ h => ⟨r, rfl, h⟩).attempt
  refine hattempt.andThen (fun outcome s₂ h => ?_) fun e s₂ h => nomatch h
  obtain ⟨r, hr, hardware, events, rfl, hrun⟩ := h
  cases hr
  have hin : s.InSession { s₁ with hardware, events } :=
    ⟨hstart.inSession.taken, hstart.inSession.current, hstart.inSession.epoch,
      hstart.inSession.retention, hstart.inSession.cores⟩
  cases outcome with
  | error t =>
      have hparks : request.parks = true ∧
          request.wreck s.retention.state = s.retention.state := by
        cases hmoves <;> exact ⟨rfl, rfl⟩
      exact ensures_giveUp t _ hin hstart.held hparks.1 hparks.2
  | ok _ =>
      have hheld : ({ s₁ with hardware, events } : System H).Held := hstart.held
      have hletGo := completes_letGo hheld target
      dsimp only
      rw [← Procedure.bind_assoc]
      refine hletGo.ensures.andThen (fun _ s₃ ⟨_, _, hlands⟩ => hfinal s₃ fun events => ?_)
        fun _ _ ⟨_, h, _⟩ => nomatch h
      exact (hlands.relog events).moved hmoves hactive hin hrun

theorem ensures_switchFrom {core : Nat} {target : FrequencyIndex} {online : CoreMask}
    {timings : PointTimings} (hcalm : s.Calm) (hactive : s.retention.state = .active)
    (hmoves : c.Moves s (.switch target online) (Sequences.switchPoint c.config
      (((c.table.timings? s.barrier.current).map (·.bypass)).getD false)
      (timings.point target) timings) target) :
    (c.switchFrom core ⟨s.barrier.current⟩ target timings online).Ensures System.answer s.claimed
      (c.Outcome s (.switch target online)) := by
  refine System.ensures_log fun events => ?_
  have hcalm' : ({ s.claimed with events } : System H).Calm := hcalm
  refine (System.ensures_quiesce hcalm' core online).andThen (fun _ s₁ h => ?_)
    fun e s₁ h => nomatch h.1
  obtain ⟨-, ⟨cores, arrived, events, raised, rfl, hlength⟩, hheld⟩ := h
  obtain ⟨events', flushes, hflush⟩ := System.run_flush (ε := TransitionError) ({ s with
    cores, raised, events
    barrier := { s.barrier with inProgress := true, hold := true, arrived } } : System H)
  refine Procedure.ensures_bind_of_run hflush ?_
  refine ensures_conclude hmoves hactive ⟨⟨rfl, rfl, rfl, rfl, hlength⟩, hheld, rfl⟩ fun s' h => ?_
  obtain ⟨events, hlog⟩ := System.run_log (ε := TransitionError) .info
    ("DRAM running at " ++ rateText timings.dataRate ++ " MT/s") s'
  exact Procedure.ensures_of_run hlog (h events)

theorem ensures_fastSwitchTo {core : Nat} {target : FrequencyIndex} {speed : Speed}
    {online : CoreMask} (hcalm : s.Calm) (hactive : s.retention.state = .active)
    (hmoves : c.Moves s (.fast speed online) (Sequences.switchSpeed c.config speed) target) :
    (c.fastSwitchTo core target speed online).Ensures System.answer s.claimed
      (c.Outcome s (.fast speed online)) := by
  refine System.ensures_log fun events => ?_
  have hcalm' : ({ s.claimed with events } : System H).Calm := hcalm
  refine (System.ensures_quiesce hcalm' core online).andThen (fun _ s₁ h => ?_)
    fun e s₁ h => nomatch h.1
  obtain ⟨-, ⟨cores, arrived, events, raised, rfl, hlength⟩, hheld⟩ := h
  have hstart : Starts s ({ s with
      cores, raised, events
      barrier := { s.barrier with inProgress := true, hold := true, arrived } } : System H) :=
    ⟨⟨rfl, rfl, rfl, rfl, hlength⟩, hheld, rfl⟩
  -- Nothing is left to do once the session has been given back.
  have hend : ∀ s', (∀ events, c.Outcome s (.fast speed online) (.ok ()) { s' with events }) →
      (Procedure.done () : Operation TransitionError Unit).Ensures System.answer s'
        (c.Outcome s (.fast speed online)) :=
    fun s' h => Procedure.ensures_of_run rfl (h s'.events)
  exact ensures_conclude hmoves hactive hstart hend

theorem ensures_demand {α : Type} {value : Option α} {e : TransitionError}
    {f : α → Operation TransitionError Unit} {request : Request}
    (herror : ∀ t, e ≠ .pollTimeout t)
    (h : ∀ a, value = some a → (f a).Ensures System.answer s (c.Outcome s request)) :
    (Procedure.demand value e >>= f).Ensures System.answer s (c.Outcome s request) := by
  cases value with
  | none => exact Procedure.ensures_of_run rfl (.refused herror)
  | some a => exact Procedure.ensures_bind_of_run rfl (h a rfl)

theorem ensures_require {condition : Bool} {e : TransitionError}
    {f : Unit → Operation TransitionError Unit} {request : Request}
    (herror : ∀ t, e ≠ .pollTimeout t)
    (h : condition = true → (f ()).Ensures System.answer s (c.Outcome s request)) :
    (Procedure.require condition e >>= f).Ensures System.answer s (c.Outcome s request) := by
  cases condition with
  | false => exact Procedure.ensures_of_run rfl (.refused herror)
  | true => exact Procedure.ensures_bind_of_run rfl (h rfl)

/-- A session for a switch is refused, or granted in an active subsystem. -/
theorem ensures_beginActive {f : Session → Operation TransitionError Unit} {request : Request}
    (hfree : s.barrier.inProgress = false)
    (h : s.retention.state = .active →
      (f ⟨s.barrier.current⟩).Ensures System.answer s.claimed (c.Outcome s request)) :
    (beginActive >>= f).Ensures System.answer s (c.Outcome s request) := by
  have hbegin := System.run_beginActive s
  by_cases hactive : s.retention.state = .active
  · rw [if_pos ⟨hfree, hactive⟩] at hbegin
    exact Procedure.ensures_bind_of_run hbegin (h hactive)
  · rw [if_neg fun hboth => hactive hboth.2] at hbegin
    exact Procedure.ensures_of_run (Procedure.run_bind_of_error hbegin) (.refused nofun)

theorem ensures_refuse {request : Request} {e : TransitionError}
    (hfree : s.barrier.inProgress = false) (herror : ∀ t, e ≠ .pollTimeout t) :
    ((⟨s.barrier.current⟩ : Session).refuse e : Operation TransitionError Unit).Ensures
      System.answer s.claimed (c.Outcome s request) :=
  Procedure.ensures_of_run (System.run_refuse hfree e) (.refused herror)

theorem ensures_cancel {request : Request} (hfree : s.barrier.inProgress = false) :
    ((⟨s.barrier.current⟩ : Session).cancel : Operation TransitionError Unit).Ensures
      System.answer s.claimed (c.Outcome s request) :=
  Procedure.ensures_of_run (System.run_cancel hfree) .unneeded

theorem ensures_switchFrequency (hcalm : s.Calm) (hfree : s.barrier.inProgress = false)
    (core : Nat) (target : FrequencyIndex) (online : CoreMask) :
    (c.switchFrequency core target online).Ensures System.answer s
      (c.Outcome s (.switch target online)) := by
  refine ensures_demand nofun fun timings htimings => ?_
  refine ensures_require nofun fun hswitchable => ?_
  refine ensures_require nofun fun honline => ?_
  refine ensures_beginActive hfree fun hactive => ?_
  dsimp only
  split
  · exact ensures_cancel hfree
  case isFalse hother =>
    exact ensures_switchFrom hcalm hactive (.switch htimings hswitchable honline hother)

theorem ensures_fastSwitch (hcalm : s.Calm) (hfree : s.barrier.inProgress = false) (core : Nat)
    (speed : Speed) (online : CoreMask) :
    (c.fastSwitch core speed online).Ensures System.answer s
      (c.Outcome s (.fast speed online)) := by
  have hcurrent : System.run (currentFrequency : Operation TransitionError FrequencyIndex) s =
      .ok (.ok s.barrier.current) s := rfl
  refine Procedure.ensures_bind_of_run hcurrent ?_
  refine ensures_demand nofun fun pair hpair => ?_
  refine ensures_require nofun fun honline => ?_
  refine ensures_beginActive hfree fun hactive => ?_
  dsimp only
  split
  · exact ensures_refuse hfree nofun
  case isFalse hpoint =>
    split
    · exact ensures_cancel hfree
    case isFalse hother =>
      exact ensures_fastSwitchTo hcalm hactive (.fast hpair honline (by tauto) hother)

/-! ### Retention -/

/-- The end of a change of retention that has timed out. -/
theorem ensures_giveUp_retention {request : Request} {s₁ : System H} (t : PollTimeout)
    (message : String) (htaken : s₁.barrier = s.claimed.barrier) (hcalm : s.Calm)
    (hcores : s₁.cores = s.cores) (hparks : request.parks = false)
    (hstate : s₁.retention.state = request.wreck s.retention.state) :
    (do log .error message
        .fail (.pollTimeout t) : Operation TransitionError Unit).Ensures System.answer s₁
      (c.Outcome s request) := by
  refine System.ensures_log fun events => Procedure.ensures_of_run rfl ?_
  refine .wedged ?_ ?_ ?_ hstate ?_
  · rw [htaken]
    rfl
  · rw [htaken]
    rfl
  · rw [htaken]
    rfl
  · rw [hparks]
    exact ⟨by rw [htaken]; exact hcalm.1, by rw [hcores]; exact hcalm.2⟩

/-- Nothing but hardware, snapshot and record has changed. -/
structure Steady {H : Type} (s s' : System H) : Prop where
  barrier : s'.barrier = s.barrier
  cores : s'.cores = s.cores
  state : s'.retention.state = s.retention.state

theorem Steady.trans {H : Type} {s s' s'' : System H} (h : Steady s s') (h' : Steady s' s'') :
    Steady s s'' :=
  ⟨h'.barrier.trans h.barrier, h'.cores.trans h.cores, h'.state.trans h.state⟩

/-- What the run of a register sequence in a system shows of the hardware. -/
theorem ensures_steady_registers {ε α : Type} (p : Sequence ε α) (s : System H) :
    (registers p).Ensures System.answer s fun r s' => Steady s s' ∧
      s'.retention = s.retention ∧ RegisterFile.run p s.hardware = .ok r s'.hardware := by
  have hp : p.Ensures RegisterFile.answer s.hardware fun r hardware =>
      RegisterFile.run p s.hardware = .ok r hardware := fun r hardware hrun => hrun
  refine (System.ensures_registers hp).mono fun r s' h => ?_
  obtain ⟨hardware, events, rfl, hrun⟩ := h
  exact ⟨⟨rfl, rfl, rfl⟩, rfl, hrun⟩

theorem ensures_saveSnapshot (current : FrequencyIndex) (timings : PointTimings) (s : System H) :
    (saveSnapshot current timings).Ensures System.answer s fun r s' => Steady s s' ∧
      (r = .ok () → Saves current timings s.retention.snapshot s.hardware s'.hardware
        s'.retention.snapshot) := by
  refine Procedure.ensures_bind_of_run (System.run_retention .readSnapshot s) ?_
  dsimp only [RetentionAccess.apply]
  cases htrained : s.retention.snapshot.trained with
  | some trained =>
      exact Procedure.ensures_of_run (System.run_retention _ _) ⟨⟨rfl, rfl, rfl⟩,
        fun _ => .kept htrained⟩
  | none =>
      refine (ensures_steady_registers _ _).andThen (fun values s₁ h => ?_) fun e s₁ h =>
        ⟨h.1, nofun⟩
      obtain ⟨hsteady, hretention, hread⟩ := h
      refine Procedure.ensures_of_run (System.run_retention _ _) ⟨?_, fun _ => .taken htrained hread⟩
      exact ⟨hsteady.barrier, hsteady.cores, hsteady.state⟩

theorem ensures_powerDown (current : FrequencyIndex) (timings : PointTimings) (s : System H) :
    (c.powerDown current timings).Ensures System.answer s fun r s' => Steady s s' ∧
      (r = .ok () → c.PowersDown current timings s.hardware s.retention.snapshot s'.hardware
        s'.retention.snapshot) := by
  refine (ensures_steady_registers _ _).andThen (fun _ s₁ h₁ => ?_) fun e s₁ h => ⟨h.1, nofun⟩
  obtain ⟨hsteady₁, hretention₁, hquiet⟩ := h₁
  refine (ensures_saveSnapshot current timings s₁).andThen (fun _ s₂ h₂ => ?_) fun e s₂ h =>
    ⟨hsteady₁.trans h.1, nofun⟩
  obtain ⟨hsteady₂, hsaves⟩ := h₂
  obtain ⟨events, flushes, hflush⟩ := System.run_flush (ε := PollTimeout) s₂
  refine Procedure.ensures_bind_of_run hflush ?_
  refine (ensures_steady_registers _ _).mono fun r s₃ h₃ => ?_
  obtain ⟨hsteady₃, hretention₃, hoff⟩ := h₃
  have hsteady : Steady s s₃ :=
    (hsteady₁.trans hsteady₂).trans ⟨hsteady₃.barrier, hsteady₃.cores, hsteady₃.state⟩
  refine ⟨hsteady, ?_⟩
  rintro rfl
  refine ⟨s₁.hardware, s₂.hardware, hquiet, ?_, hoff⟩
  rw [hretention₃, ← hretention₁]
  exact hsaves rfl

theorem ensures_enterFrom {timings : PointTimings} (hcalm : s.Calm)
    (hfree : s.barrier.inProgress = false) (hactive : s.retention.state = .active)
    (htimings : c.table.timings? s.barrier.current = some timings)
    (hretainable : timings.retainable = true) :
    (c.enterFrom ⟨s.barrier.current⟩ timings).Ensures System.answer
      { s.claimed with retention := { s.retention with state := .entering } }
      (c.Outcome s .enter) := by
  refine System.ensures_log fun events => ?_
  have hdown : (Procedure.attempt (c.powerDown s.barrier.current timings) :
      Operation TransitionError _).Ensures System.answer
        { s.claimed with retention := { s.retention with state := .entering }, events }
        fun outcome s₁ => ∃ r, outcome = .ok r ∧
          Steady { s.claimed with retention := { s.retention with state := .entering }, events } s₁ ∧
            (r = .ok () → c.PowersDown s.barrier.current timings s.hardware s.retention.snapshot
              s₁.hardware s₁.retention.snapshot) :=
    ((ensures_powerDown _ _ _).mono fun r s₁ h => ⟨r, rfl, h⟩).attempt
  refine hdown.andThen (fun outcome s₁ h => ?_) fun e s₁ h => nomatch h
  obtain ⟨r, hr, hsteady, hdone⟩ := h
  cases hr
  cases outcome with
  | error t =>
      exact ensures_giveUp_retention t _ hsteady.barrier hcalm hsteady.cores rfl hsteady.state
  | ok _ =>
      refine Procedure.ensures_bind_of_run (System.run_retention _ s₁) ?_
      refine Procedure.ensures_of_run (System.run_finish _ _) ?_
      refine .lowered htimings hretainable hactive (hdone rfl) rfl ?_ hsteady.cores
      simp only [hsteady.barrier, System.claimed]
      rw [← hfree]

theorem ensures_enterRetention (hcalm : s.Calm) (hfree : s.barrier.inProgress = false) :
    c.enterRetention.Ensures System.answer s (c.Outcome s .enter) := by
  have hbegin := System.run_begin s
  rw [hfree] at hbegin
  refine Procedure.ensures_bind_of_run hbegin ?_
  dsimp only
  split
  · exact ensures_refuse hfree (by simp)
  case h_2 timings htimings =>
    obtain ⟨hfound, hretainable⟩ := Option.filter_eq_some_iff.1 htimings
    refine Procedure.ensures_bind_of_run (System.run_retention .beginEntry s.claimed) ?_
    by_cases hactive : s.retention.state = .active
    · have hentry : RetentionAccess.beginEntry.apply s.claimed.retention =
          (true, { s.retention with state := .entering }) := by
        simp [RetentionAccess.apply, System.claimed, hactive]
      rw [hentry]
      exact ensures_enterFrom hcalm hfree hactive hfound hretainable
    · have hentry : RetentionAccess.beginEntry.apply s.claimed.retention =
          (false, s.retention) := by
        simp [RetentionAccess.apply, System.claimed, hactive]
      rw [hentry]
      exact ensures_refuse hfree (by simp)

theorem ensures_exitTo (hcalm : s.Calm) (hfree : s.barrier.inProgress = false)
    (hretained : s.retention.state = .retained) :
    (c.exitTo ⟨s.barrier.current⟩ s.retention.snapshot).Ensures System.answer
      { s.claimed with retention := { s.retention with state := .exiting } }
      (c.Outcome s .exit) := by
  unfold exitTo
  dsimp only
  cases htimings : c.table.timings? s.retention.snapshot.frequency with
  | none =>
      have hrefuse := System.run_refuse (s := ({ s with
        retention := { s.retention with state := .exiting } } : System H)) hfree
        (TransitionError.invalidIndex s.retention.snapshot.frequency) (α := Unit)
      exact Procedure.ensures_of_run hrefuse (.corrupted hretained htimings nofun)
  | some timings =>
      have hup : ∀ p : Sequences.Timed Unit, (Procedure.attempt (registers p) :
          Operation TransitionError _).Ensures System.answer
            { s.claimed with retention := { s.retention with state := .exiting } }
            fun outcome s₁ => ∃ r, outcome = .ok r ∧
              Steady { s.claimed with retention := { s.retention with state := .exiting } } s₁ ∧
                s₁.retention = { s.retention with state := .exiting } ∧
                  RegisterFile.run p s.hardware = .ok r s₁.hardware :=
        fun p => ((ensures_steady_registers p _).mono fun r s₁ h => ⟨r, rfl, h⟩).attempt
      refine (hup _).andThen (fun outcome s₁ h => ?_) fun e s₁ h => nomatch h
      obtain ⟨r, hr, hsteady, hretention, hrun⟩ := h
      cases hr
      cases outcome with
      | error t =>
          exact ensures_giveUp_retention t _ hsteady.barrier hcalm hsteady.cores rfl hsteady.state
      | ok _ =>
          refine Procedure.ensures_bind_of_run (System.run_retention _ s₁) ?_
          refine Procedure.ensures_bind_of_run (System.run_finish _ _) ?_
          obtain ⟨events, hlog⟩ := System.run_log (ε := TransitionError) .info
            ("DRAM left retention at " ++ rateText timings.dataRate ++ " MT/s") ({ s₁ with
              retention := { s₁.retention with state := .active }
              barrier := { s₁.barrier with
                current := s.retention.snapshot.frequency, inProgress := false } } : System H)
          refine Procedure.ensures_of_run hlog ?_
          refine .raised hretained htimings hrun ?_ ?_ hsteady.cores
          · simp only [hretention]
          · simp only [hsteady.barrier, System.claimed]
            rw [← hfree]

theorem ensures_exitRetention (hcalm : s.Calm) (hfree : s.barrier.inProgress = false) :
    c.exitRetention.Ensures System.answer s (c.Outcome s .exit) := by
  refine Procedure.ensures_bind_of_run (System.run_retention .readState s) ?_
  refine ensures_require nofun fun hretained => ?_
  have hretained : s.retention.state = .retained := of_decide_eq_true hretained
  have hbegin := System.run_begin s
  rw [hfree] at hbegin
  refine Procedure.ensures_bind_of_run hbegin ?_
  refine Procedure.ensures_bind_of_run (System.run_retention .beginExit s.claimed) ?_
  have hexit : RetentionAccess.beginExit.apply s.claimed.retention =
      (some s.retention.snapshot, { s.retention with state := .exiting }) := by
    simp [RetentionAccess.apply, System.claimed, hretained]
  rw [hexit]
  exact ensures_exitTo hcalm hfree hretained

/-! ### All transitions -/

/-- **Every run of a transition is one of the cases.** -/
theorem outcome_of_run (hcalm : s.Calm) (hfree : s.barrier.inProgress = false) (core : Nat)
    (request : Request) :
    (c.operation core request).Ensures System.answer s (c.Outcome s request) := by
  cases request with
  | switch target online => exact ensures_switchFrequency hcalm hfree core target online
  | fast speed online => exact ensures_fastSwitch hcalm hfree core speed online
  | enter => exact ensures_enterRetention hcalm hfree
  | exit => exact ensures_exitRetention hcalm hfree

/-! ### Systems with a session in flight -/

/-- The operation is refused by some error other than a timeout, and nothing changes. -/
def Refuses (p : Operation TransitionError Unit) (s : System H) : Prop :=
  ∃ e, (∀ t, e ≠ .pollTimeout t) ∧ System.run p s = .ok (.error e) s

theorem refuses_demand {α : Type} {value : Option α} {e : TransitionError}
    {f : α → Operation TransitionError Unit} (herror : ∀ t, e ≠ .pollTimeout t)
    (h : ∀ a, Refuses (f a) s) : Refuses (Procedure.demand value e >>= f) s := by
  cases value with
  | none => exact ⟨e, herror, rfl⟩
  | some a => exact h a

theorem refuses_require {condition : Bool} {e : TransitionError}
    {f : Unit → Operation TransitionError Unit} (herror : ∀ t, e ≠ .pollTimeout t)
    (h : Refuses (f ()) s) : Refuses (Procedure.require condition e >>= f) s := by
  cases condition with
  | false => exact ⟨e, herror, rfl⟩
  | true => exact h

theorem refuses_begin (htaken : s.barrier.inProgress = true)
    (f : Session → Operation TransitionError Unit) : Refuses (Session.begin >>= f) s := by
  have hbegin := System.run_begin s
  rw [htaken, System.claimed_of_taken htaken] at hbegin
  exact ⟨.busy, nofun, Procedure.run_bind_of_error hbegin⟩

theorem refuses_beginActive (htaken : s.barrier.inProgress = true)
    (f : Session → Operation TransitionError Unit) : Refuses (beginActive >>= f) s := by
  have hbegin := System.run_beginActive s
  rw [if_neg (by simp [htaken])] at hbegin
  exact ⟨.busy, nofun, Procedure.run_bind_of_error hbegin⟩

/-- **With a session in flight every transition is refused.** -/
theorem refuses_operation (htaken : s.barrier.inProgress = true) (core : Nat)
    (request : Request) : Refuses (c.operation core request) s := by
  cases request with
  | switch target online =>
      refine refuses_demand nofun fun timings => ?_
      exact refuses_require nofun (refuses_require nofun (refuses_beginActive htaken _))
  | fast speed online =>
      have hpair : ∀ f : FastPair → Operation TransitionError Unit, (∀ pair, Refuses (f pair) s) →
          Refuses (currentFrequency >>= fun current =>
            Procedure.demand c.table.fast (.invalidTransition current current) >>= f) s :=
        fun f h => refuses_demand nofun h
      exact hpair _ fun pair => refuses_require nofun (refuses_beginActive htaken _)
  | enter => exact refuses_begin htaken _
  | exit =>
      have hstate : ∀ f : Unit → Operation TransitionError Unit, Refuses (f ()) s →
          Refuses (retention .readState >>= fun state =>
            Procedure.require (state = .retained) .notRetained >>= f) s :=
        fun f h => refuses_require nofun h
      exact hstate _ (refuses_begin htaken _)

end Controller

end Reclock
