/-
**What a controller asks of its hardware.**

Between calls the subsystem is active or off, and the register sequences lead from the one to the
other.  Suppose a condition on the hardware for each: every sequence, started where its condition
holds, comes to an end, either at a result, with the hardware as the next sequence needs it, or in a
timeout of an allowed kind.  Then nothing that the operations do around the sequences can get in the
way: every call on a core that a set can name comes to an end, whatever has been called before, the
conditions hold between calls, and no call times out but in the allowed way.

Main definitions:

* `Reclock.Controller.Upholds` — **what the sequences do**, for given conditions on the hardware;
* `Reclock.Controller.Sustained` — what holds between calls.

Main results:

* `Reclock.Controller.Upholds.returns_operation` — **every call comes to an end**;
* `Reclock.Controller.Upholds.sustained_of_follows` — what holds between calls, after any calls.
-/

import Reclock.Proofs.Refusal

set_option relaxedAutoImplicit false
set_option autoImplicit false

namespace Reclock

namespace Controller

open Operation

variable {H : Type} {c : Controller} {s s' : System H} {T : PollTimeout → Prop}
variable {running resting off : H → Prop}

/-! ### What the sequences do -/

/-- A sequence ends at a result, with a condition on the hardware, or in an allowed timeout. -/
def Ends {α : Type} (T : PollTimeout → Prop) (P : H → Prop) : Except PollTimeout α → H → Prop
  | .ok _, h => P h
  | .error t, _ => T t

/-- An outcome is no timeout but an allowed one. -/
def Allowed (T : PollTimeout → Prop) (r : Except TransitionError Unit) : Prop :=
  ∀ t, r = .error (.pollTimeout t) → T t

theorem allowed_ok : Allowed T (.ok ()) := nofun

variable [RegisterFile H]

/-- **What the sequences of a controller do**, with conditions on the hardware of a subsystem that
runs, that has come to rest on its way down, and that is off. -/
structure Upholds (c : Controller) (T : PollTimeout → Prop) (running resting off : H → Prop) :
    Prop where
  switch : ∀ {index timings}, c.table.timings? index = some timings → ∀ leavingBypass h,
    running h → (Sequences.switchPoint c.config leavingBypass (timings.point index) timings).Returns
      RegisterFile.answer h (Ends T running)
  fast : ∀ speed h, running h →
    (Sequences.switchSpeed c.config speed).Returns RegisterFile.answer h (Ends T running)
  rest : ∀ h, running h →
    (Sequences.quietDown c.config).Returns RegisterFile.answer h (Ends T resting)
  save : ∀ {index timings}, c.table.timings? index = some timings → ∀ h, resting h →
    (Sequences.readTrained timings).Returns RegisterFile.answer h (Ends T resting)
  down : ∀ h, resting h →
    (Sequences.powerOff c.config).Returns RegisterFile.answer h (Ends T off)
  up : ∀ {index timings}, c.table.timings? index = some timings → ∀ trained h, off h →
    (Sequences.powerUp c.config (timings.point index) timings trained).Returns
      RegisterFile.answer h (Ends T running)

omit [RegisterFile H] in
/-- **What holds between calls**, while no session is in flight. -/
structure Sustained (c : Controller) (running off : H → Prop) (s : System H) : Prop where
  cores : s.cores.length = c.coreCount
  running : s.retention.state = .active → running s.hardware
  off : s.retention.state = .retained → off s.hardware

/-! ### The parts that operations have in common -/

/-- An attempt of which the failure is reported as a timeout. -/
theorem returns_reported {p : Operation PollTimeout Unit} {failure : PollTimeout → String}
    {rest : Operation TransitionError Unit} {P : System H → Prop}
    (hp : p.Returns System.answer s fun r s₁ => match r with
      | .ok _ => P s₁
      | .error t => T t)
    (hrest : ∀ s₁, P s₁ → rest.Returns System.answer s₁ fun r _ => Allowed T r) :
    (do let outcome ← Procedure.attempt p
        match outcome with
        | .error t => do
            log .error (failure t)
            .fail (.pollTimeout t)
        | .ok () => rest : Operation TransitionError Unit).Returns System.answer s
      fun r _ => Allowed T r := by
  obtain ⟨r, s₁, hrun, hr⟩ := hp
  have hattempt : (Procedure.attempt p : Operation TransitionError _).run System.answer s =
      .ok (.ok r) s₁ := by rw [Procedure.run_attempt, hrun]
  refine Procedure.returns_bind_of_run hattempt ?_
  cases r with
  | ok _ => exact hrest s₁ hr
  | error t =>
      refine System.returns_log fun events => Procedure.returns_of_run rfl ?_
      rintro _ ⟨⟩
      exact hr

/-- The end of a switch lets the cores go, and ends the session. -/
theorem returns_landing (hheld : s.Held) (target : FrequencyIndex)
    {final : Operation TransitionError Unit}
    (hfinal : ∀ s₁ : System H, final.Returns System.answer s₁ fun r _ => Allowed T r) :
    (do release
        Session.finish target
        final : Operation TransitionError Unit).Returns System.answer s fun r _ => Allowed T r := by
  rw [← Procedure.bind_assoc]
  exact (completes_letGo hheld target).andReturns fun _ s₁ _ => hfinal s₁

theorem returns_done (s : System H) :
    (.done () : Operation TransitionError Unit).Returns System.answer s fun r _ => Allowed T r :=
  Procedure.returns_of_run rfl allowed_ok

theorem returns_refuse {e : TransitionError} (hfree : s.barrier.inProgress = false)
    (herror : ∀ t, e ≠ .pollTimeout t) :
    ((⟨s.barrier.current⟩ : Session).refuse e : Operation TransitionError Unit).Returns
      System.answer s.claimed fun r _ => Allowed T r := by
  refine Procedure.returns_of_run (System.run_refuse hfree e) ?_
  rintro t ⟨⟩
  exact absurd rfl (herror t)

/-! ### Switches -/

/-- A switch, once the other cores are parked. -/
theorem returns_parked {p : Sequences.Timed Unit} {failure : PollTimeout → String}
    {target : FrequencyIndex} {final : Operation TransitionError Unit} (hheld : s.Held)
    (hp : p.Returns RegisterFile.answer s.hardware (Ends T running))
    (hfinal : ∀ s₁ : System H, final.Returns System.answer s₁ fun r _ => Allowed T r) :
    (do let outcome ← Procedure.attempt (registers p)
        match outcome with
        | .error t => do
            log .error (failure t)
            .fail (.pollTimeout t)
        | .ok () => do
            release
            Session.finish target
            final : Operation TransitionError Unit).Returns System.answer s
      fun r _ => Allowed T r := by
  refine returns_reported (P := System.Held) ((System.returns_registers hp).mono ?_)
    fun s₁ hheld₁ => returns_landing hheld₁ target hfinal
  rintro r s₁ ⟨hardware, events, rfl, hr⟩
  cases r with
  | ok _ => exact hheld
  | error t => exact hr

theorem returns_switchFrom {core : Nat} {target : FrequencyIndex} {online : CoreMask}
    {timings : PointTimings} (hcalm : s.Calm) (hcore : core < 32)
    (honline : ∀ k, online.contains k = true → k < s.cores.length)
    (hp : ∀ leavingBypass, (Sequences.switchPoint c.config leavingBypass (timings.point target)
      timings).Returns RegisterFile.answer s.hardware (Ends T running)) :
    (c.switchFrom core ⟨s.barrier.current⟩ target timings online).Returns System.answer s.claimed
      fun r _ => Allowed T r := by
  refine System.returns_log fun events => ?_
  have hcalm' : ({ s.claimed with events } : System H).Calm := hcalm
  refine (System.completes_quiesce hcalm' hcore honline).andReturns fun _ s₁ hparked => ?_
  obtain ⟨⟨cores, arrived, events₁, raised, rfl, -⟩, hheld⟩ := hparked
  obtain ⟨events₂, flushes, hflush⟩ := System.run_flush (ε := TransitionError) ({ s with
    cores, raised, events := events₁
    barrier := { s.barrier with inProgress := true, hold := true, arrived } } : System H)
  refine Procedure.returns_bind_of_run hflush ?_
  refine returns_parked hheld (hp _) fun s₂ => ?_
  obtain ⟨events₃, hlog⟩ := System.run_log (ε := TransitionError) .info
    ("DRAM running at " ++ rateText timings.dataRate ++ " MT/s") s₂
  exact Procedure.returns_of_run hlog allowed_ok

theorem returns_fastSwitchTo {core : Nat} {target : FrequencyIndex} {speed : Speed}
    {online : CoreMask} (hcalm : s.Calm) (hcore : core < 32)
    (honline : ∀ k, online.contains k = true → k < s.cores.length)
    (hp : (Sequences.switchSpeed c.config speed).Returns RegisterFile.answer s.hardware
      (Ends T running)) :
    (c.fastSwitchTo core target speed online).Returns System.answer s.claimed
      fun r _ => Allowed T r := by
  refine System.returns_log fun events => ?_
  have hcalm' : ({ s.claimed with events } : System H).Calm := hcalm
  refine (System.completes_quiesce hcalm' hcore honline).andReturns fun _ s₁ hparked => ?_
  obtain ⟨⟨cores, arrived, events₁, raised, rfl, -⟩, hheld⟩ := hparked
  have hfinal : ∀ s₁ : System H, (.done () : Operation TransitionError Unit).Returns System.answer
      s₁ fun r _ => Allowed T r := returns_done
  exact returns_parked hheld hp hfinal

/-! ### Guards and sessions -/

theorem returns_demand {α : Type} {value : Option α} {e : TransitionError}
    {f : α → Operation TransitionError Unit} (herror : ∀ t, e ≠ .pollTimeout t)
    (h : ∀ a, value = some a → (f a).Returns System.answer s fun r _ => Allowed T r) :
    (Procedure.demand value e >>= f).Returns System.answer s fun r _ => Allowed T r := by
  cases value with
  | none =>
      refine Procedure.returns_of_run rfl ?_
      rintro t ⟨⟩
      exact absurd rfl (herror t)
  | some a => exact Procedure.returns_bind_of_run rfl (h a rfl)

theorem returns_require {condition : Bool} {e : TransitionError}
    {f : Unit → Operation TransitionError Unit} (herror : ∀ t, e ≠ .pollTimeout t)
    (h : condition = true → (f ()).Returns System.answer s fun r _ => Allowed T r) :
    (Procedure.require condition e >>= f).Returns System.answer s fun r _ => Allowed T r := by
  cases condition with
  | false =>
      refine Procedure.returns_of_run rfl ?_
      rintro t ⟨⟩
      exact absurd rfl (herror t)
  | true => exact Procedure.returns_bind_of_run rfl (h rfl)

theorem returns_beginActive {f : Session → Operation TransitionError Unit}
    (hfree : s.barrier.inProgress = false)
    (h : s.retention.state = .active →
      (f ⟨s.barrier.current⟩).Returns System.answer s.claimed fun r _ => Allowed T r) :
    (beginActive >>= f).Returns System.answer s fun r _ => Allowed T r := by
  have hbegin := System.run_beginActive s
  by_cases hactive : s.retention.state = .active
  · rw [if_pos ⟨hfree, hactive⟩] at hbegin
    exact Procedure.returns_bind_of_run hbegin (h hactive)
  · rw [if_neg fun hboth => hactive hboth.2] at hbegin
    exact Procedure.returns_of_run (Procedure.run_bind_of_error hbegin) nofun

/-! ### All operations -/

omit [RegisterFile H] in
theorem Sustained.lt_of_admits (hs : c.Sustained running off s) {online : CoreMask}
    (hadmitted : c.admits online = true) (k : Nat) (hk : online.contains k = true) :
    k < s.cores.length := by
  rw [hs.cores]
  exact admits_iff.1 hadmitted k hk

namespace Upholds

variable (hup : c.Upholds T running resting off)
include hup

theorem returns_switchFrequency (hs : c.Sustained running off s) (hcalm : s.Calm)
    (hfree : s.barrier.inProgress = false) {core : Nat} (hcore : core < 32)
    (target : FrequencyIndex) (online : CoreMask) :
    (c.switchFrequency core target online).Returns System.answer s fun r _ => Allowed T r := by
  refine returns_demand nofun fun timings htimings => ?_
  refine returns_require nofun fun _ => returns_require nofun fun hadmitted => ?_
  refine returns_beginActive hfree fun hactive => ?_
  dsimp only
  split
  · exact Procedure.returns_of_run (System.run_cancel hfree) allowed_ok
  · exact returns_switchFrom hcalm hcore (hs.lt_of_admits hadmitted) fun leavingBypass =>
      hup.switch htimings leavingBypass s.hardware (hs.running hactive)

theorem returns_fastSwitch (hs : c.Sustained running off s) (hcalm : s.Calm)
    (hfree : s.barrier.inProgress = false) {core : Nat} (hcore : core < 32) (speed : Speed)
    (online : CoreMask) :
    (c.fastSwitch core speed online).Returns System.answer s fun r _ => Allowed T r := by
  have hcurrent : System.run (currentFrequency : Operation TransitionError FrequencyIndex) s =
      .ok (.ok s.barrier.current) s := rfl
  refine Procedure.returns_bind_of_run hcurrent ?_
  refine returns_demand nofun fun pair hpair => returns_require nofun fun hadmitted => ?_
  refine returns_beginActive hfree fun hactive => ?_
  dsimp only
  split
  · exact returns_refuse hfree nofun
  · split
    · exact Procedure.returns_of_run (System.run_cancel hfree) allowed_ok
    · exact returns_fastSwitchTo hcalm hcore (hs.lt_of_admits hadmitted)
        (hup.fast speed s.hardware (hs.running hactive))

/-- The way down as far as the hardware and the snapshot are concerned. -/
theorem returns_powerDown {current : FrequencyIndex} {timings : PointTimings}
    (htimings : c.table.timings? current = some timings) (hrunning : running s.hardware) :
    (c.powerDown current timings).Returns System.answer s fun r s₁ => match r with
      | .ok _ => off s₁.hardware
      | .error t => T t := by
  refine (System.returns_registers (hup.rest s.hardware hrunning)).andThen (fun _ s₁ h₁ => ?_)
    fun t s₁ h₁ => ?_
  case refine_2 =>
    obtain ⟨hardware, events, rfl, ht⟩ := h₁
    exact ht
  obtain ⟨hardware₁, events₁, rfl, hresting₁⟩ := h₁
  have hsave : (saveSnapshot current timings).Returns System.answer
      ({ s with hardware := hardware₁, events := events₁ } : System H) fun r s₂ => match r with
        | .ok _ => resting s₂.hardware
        | .error t => T t := by
    refine Procedure.returns_bind_of_run (System.run_retention .readSnapshot _) ?_
    dsimp only [RetentionAccess.apply]
    cases s.retention.snapshot.trained with
    | some trained => exact Procedure.returns_of_run (System.run_retention _ _) hresting₁
    | none =>
        refine (System.returns_registers (hup.save htimings hardware₁ hresting₁)).andThen
          (fun values s₂ h₂ => ?_) fun t s₂ h₂ => ?_
        · obtain ⟨hardware₂, events₂, rfl, hresting₂⟩ := h₂
          exact Procedure.returns_of_run (System.run_retention _ _) hresting₂
        · obtain ⟨hardware₂, events₂, rfl, ht⟩ := h₂
          exact ht
  refine hsave.andThen (fun _ s₂ hresting₂ => ?_) fun t s₂ ht => ht
  obtain ⟨events₃, flushes, hflush⟩ := System.run_flush (ε := PollTimeout) s₂
  refine Procedure.returns_bind_of_run hflush ?_
  refine (System.returns_registers (s := { s₂ with events := events₃, flushes })
    (hup.down s₂.hardware hresting₂)).mono ?_
  rintro r s₃ ⟨hardware₃, events₄, rfl, hr⟩
  cases r with
  | ok _ => exact hr
  | error t => exact hr

theorem returns_enterRetention (hs : c.Sustained running off s)
    (hfree : s.barrier.inProgress = false) :
    c.enterRetention.Returns System.answer s fun r _ => Allowed T r := by
  have hbegin := System.run_begin s
  rw [hfree] at hbegin
  refine Procedure.returns_bind_of_run hbegin ?_
  dsimp only
  split
  · exact returns_refuse hfree nofun
  case h_2 timings htimings =>
    obtain ⟨hfound, -⟩ := Option.filter_eq_some_iff.1 htimings
    refine Procedure.returns_bind_of_run (System.run_retention .beginEntry s.claimed) ?_
    by_cases hactive : s.retention.state = .active
    · have hentry : RetentionAccess.beginEntry.apply s.claimed.retention =
          (true, { s.retention with state := .entering }) := by
        simp [RetentionAccess.apply, System.claimed, hactive]
      rw [hentry]
      refine System.returns_log fun events => ?_
      refine returns_reported (hup.returns_powerDown hfound (hs.running hactive)) fun s₁ _ => ?_
      refine Procedure.returns_bind_of_run (System.run_retention _ s₁) ?_
      exact Procedure.returns_of_run (System.run_finish _ _) allowed_ok
    · have hentry : RetentionAccess.beginEntry.apply s.claimed.retention =
          (false, s.retention) := by
        simp [RetentionAccess.apply, System.claimed, hactive]
      rw [hentry]
      exact returns_refuse hfree (by rintro t ⟨⟩)

theorem returns_exitRetention (hs : c.Sustained running off s)
    (hfree : s.barrier.inProgress = false) :
    c.exitRetention.Returns System.answer s fun r _ => Allowed T r := by
  refine Procedure.returns_bind_of_run (System.run_retention .readState s) ?_
  refine returns_require nofun fun hretained => ?_
  have hretained : s.retention.state = .retained := of_decide_eq_true hretained
  have hbegin := System.run_begin s
  rw [hfree] at hbegin
  refine Procedure.returns_bind_of_run hbegin ?_
  refine Procedure.returns_bind_of_run (System.run_retention .beginExit s.claimed) ?_
  have hexit : RetentionAccess.beginExit.apply s.claimed.retention =
      (some s.retention.snapshot, { s.retention with state := .exiting }) := by
    simp [RetentionAccess.apply, System.claimed, hretained]
  rw [hexit]
  dsimp only
  unfold exitTo
  dsimp only
  cases htimings : c.table.timings? s.retention.snapshot.frequency with
  | none =>
      have hrefuse := returns_refuse (T := T) (s := ({ s with
        retention := { s.retention with state := .exiting } } : System H))
        (e := .invalidIndex s.retention.snapshot.frequency) hfree (by rintro t ⟨⟩)
      exact hrefuse
  | some timings =>
      refine returns_reported (P := fun _ => True) ((System.returns_registers (s := { s.claimed with
        retention := { s.retention with state := .exiting } })
        (hup.up htimings _ s.hardware (hs.off hretained))).mono ?_) fun s₁ _ => ?_
      · rintro r s₁ ⟨hardware, events, rfl, hr⟩
        cases r with
        | ok _ => trivial
        | error t => exact hr
      · refine Procedure.returns_bind_of_run (System.run_retention _ s₁) ?_
        refine Procedure.returns_bind_of_run (System.run_finish _ _) ?_
        refine System.returns_log fun events => ?_
        exact returns_done _

/-- **Every call comes to an end**, on every core that a set can name. -/
theorem returns_operation (hs : c.Sustained running off s) (hcalm : s.Calm)
    (hfree : s.barrier.inProgress = false) {core : Nat} (hcore : core < 32) (request : Request) :
    (c.operation core request).Returns System.answer s fun r _ => Allowed T r := by
  cases request with
  | switch target online => exact hup.returns_switchFrequency hs hcalm hfree hcore target online
  | fast speed online => exact hup.returns_fastSwitch hs hcalm hfree hcore speed online
  | enter => exact hup.returns_enterRetention hs hfree
  | exit => exact hup.returns_exitRetention hs hfree

end Upholds

/-! ### Cores that no set can name -/

omit [RegisterFile H]

/-- On such a core nothing comes after the wish to park the others. -/
theorem failsOnly_unnamed {α : Type} {P : TransitionError → Prop} {core : Nat} (hcore : 32 ≤ core)
    (online : CoreMask) (f : Unit → Operation TransitionError α) :
    (quiesce core online >>= f).FailsOnly P := by
  have hcheck : CoreId.ofNat core = .error .shiftOverflow := by
    rw [CoreId.ofNat, dif_neg (by omega)]
  simp only [quiesce, checkCore, hcheck]
  intro reply
  cases reply

theorem failsOnly_demand {α : Type} {P : TransitionError → Prop} {value : Option α}
    {e : TransitionError} (he : P e) :
    (Procedure.demand value e : Operation TransitionError α).FailsOnly P := by
  cases value with
  | none => exact he
  | some a => trivial

theorem failsOnly_require {P : TransitionError → Prop} {condition : Bool} {e : TransitionError}
    (he : P e) : (Procedure.require condition e : Operation TransitionError Unit).FailsOnly P := by
  cases condition with
  | false => exact he
  | true => trivial

theorem failsOnly_beginActive {P : TransitionError → Prop} (hbusy : P .busy) :
    beginActive.FailsOnly P := by
  have hbegin : Session.begin.FailsOnly P := fun free => by
    cases free with
    | false => exact hbusy
    | true => exact fun _ => trivial
  refine Procedure.failsOnly_bind hbegin fun session => fun state => ?_
  change Procedure.FailsOnly P (if state = .active then _ else _)
  split
  · trivial
  · exact fun _ _ => hbusy

/-- A switch that is asked for on such a core does not time out. -/
theorem failsOnly_unnamed_operation {core : Nat} (hcore : 32 ≤ core) {request : Request}
    (hparks : request.parks = true) :
    (c.operation core request).FailsOnly fun e => ∀ t, e ≠ .pollTimeout t := by
  cases request with
  | enter => cases hparks
  | exit => cases hparks
  | switch target online =>
      refine Procedure.failsOnly_bind (failsOnly_demand nofun) fun timings => ?_
      refine Procedure.failsOnly_bind (failsOnly_require nofun) fun _ => ?_
      refine Procedure.failsOnly_bind (failsOnly_require nofun) fun _ => ?_
      refine Procedure.failsOnly_bind (failsOnly_beginActive nofun) fun session => ?_
      split
      · exact fun _ _ => trivial
      · exact fun _ => failsOnly_unnamed hcore online _
  | fast speed online =>
      refine Procedure.failsOnly_bind (fun _ => trivial) fun current => ?_
      refine Procedure.failsOnly_bind (failsOnly_demand nofun) fun pair => ?_
      refine Procedure.failsOnly_bind (failsOnly_require nofun) fun _ => ?_
      refine Procedure.failsOnly_bind (failsOnly_beginActive nofun) fun session => ?_
      split
      · exact fun _ _ => nofun
      · split
        · exact fun _ _ => trivial
        · exact fun _ => failsOnly_unnamed hcore online _

/-! ### Any calls, one after another -/

variable [RegisterFile H]

/-- A call that does not time out gives the session back. -/
theorem Outcome.free {request : Request} {r : Except TransitionError Unit}
    (houtcome : c.Outcome s request r s') (hfree : s.barrier.inProgress = false)
    (hends : ∀ t, r ≠ .error (.pollTimeout t)) : s'.barrier.inProgress = false := by
  cases houtcome with
  | refused => exact hfree
  | unneeded => exact hfree
  | moved _ _ _ _ hfree' => exact hfree'
  | lowered _ _ _ _ _ hbarrier => rw [hbarrier, hfree]
  | raised _ _ _ _ hbarrier => rw [hbarrier]; exact hfree
  | corrupted => exact hfree
  | wedged => exact absurd rfl (hends _)

namespace Upholds

variable (hup : c.Upholds T running resting off)
include hup

/-- The hardware rests on after the trained values have been saved. -/
theorem resting_of_saves {index : FrequencyIndex} {timings : PointTimings}
    (htimings : c.table.timings? index = some timings) {snapshot snapshot' : Snapshot}
    {hardware hardware' : H} (hresting : resting hardware)
    (hsaves : Saves index timings snapshot hardware hardware' snapshot') : resting hardware' := by
  cases hsaves with
  | kept => exact hresting
  | taken _ hread => exact (hup.save htimings _ hresting).ensures _ _ hread

/-- Every call that gives the session back leaves the subsystem as it should be between calls. -/
theorem sustained_of_outcome (hs : c.Sustained running off s) {request : Request}
    {r : Except TransitionError Unit} (houtcome : c.Outcome s request r s')
    (hfree : s'.barrier.inProgress = false) : c.Sustained running off s' := by
  cases houtcome with
  | refused => exact hs
  | unneeded => exact hs
  | moved hmoves hactive hrun _ _ _ hretention hcores =>
      have hrunning := hs.running hactive
      have hmoved : running s'.hardware := by
        cases hmoves with
        | switch htimings => exact (hup.switch htimings _ _ hrunning).ensures _ _ hrun
        | fast => exact (hup.fast _ _ hrunning).ensures _ _ hrun
      refine ⟨hcores.trans hs.cores, fun _ => hmoved, fun hretained => ?_⟩
      rw [hretention, hactive] at hretained
      cases hretained
  | lowered htimings _ hactive hdown hstate _ hcores =>
      obtain ⟨quiet, saved, hquiet, hsaves, hoff⟩ := hdown
      have hresting := (hup.rest _ (hs.running hactive)).ensures _ _ hquiet
      have hsaved := hup.resting_of_saves htimings hresting hsaves
      refine ⟨by rw [hcores]; exact hs.cores, fun hactive' => ?_, fun _ => ?_⟩
      · cases hstate.symm.trans hactive'
      · exact (hup.down _ hsaved).ensures _ _ hoff
  | raised hretained htimings hrun hretention _ hcores =>
      refine ⟨by rw [hcores]; exact hs.cores, fun _ => ?_, fun hretained' => ?_⟩
      · exact (hup.up htimings _ _ (hs.off hretained)).ensures _ _ hrun
      · rw [hretention] at hretained'
        cases hretained'
  | corrupted => exact ⟨hs.cores, nofun, nofun⟩
  | wedged htaken => cases htaken.symm.trans hfree

variable {hardware : H} {current : FrequencyIndex} (hrunning : running hardware)
  (h : c.Follows (System.start hardware c.coreCount current) s)
include hrunning h

/-- **Between calls everything is as it should be**, unless a session has been left in flight. -/
theorem sustained_of_follows (hfree : s.barrier.inProgress = false) :
    c.Sustained running off s := by
  induction h with
  | refl => exact ⟨List.length_replicate .., fun _ => hrunning, nofun⟩
  | call core request hbefore hrun ih =>
      rcases outcome_of_call (reached_of_follows hbefore) hrun with
        ⟨htaken, rfl, -⟩ | ⟨hbegins, houtcome⟩
      -- A session that is in flight before a call stays so.
      · cases htaken.symm.trans hfree
      · exact hup.sustained_of_outcome (ih hbegins) houtcome hfree

/-- **Every further call comes to an end.** -/
theorem returns_of_follows {core : Nat} (hcore : core < 32) (request : Request) :
    (c.operation core request).Returns System.answer s fun r _ => Allowed T r := by
  cases hfree : s.barrier.inProgress with
  | false =>
      exact hup.returns_operation (hup.sustained_of_follows hrunning h hfree)
        (calm_of_reached (reached_of_follows h) hfree) hfree hcore request
  | true =>
      obtain ⟨e, herror, hrefused⟩ := refuses_operation (c := c) hfree core request
      refine Procedure.returns_of_run hrefused ?_
      rintro t ⟨⟩
      exact absurd rfl (herror t)

/-- Whatever core it is made on, a call times out only in the allowed way. -/
theorem allowed_of_follows (core : Nat) (request : Request) :
    (c.operation core request).Ensures System.answer s fun r _ => Allowed T r := by
  by_cases hcore : core < 32
  · exact (hup.returns_of_follows hrunning h hcore request).ensures
  have hfails : request.parks = true →
      (c.operation core request).Ensures System.answer s fun r _ => Allowed T r := by
    refine fun hparks => ((failsOnly_unnamed_operation (by omega) hparks).ensures s).mono ?_
    rintro r - hends t rfl
    exact absurd rfl (hends _ rfl t)
  -- The ways down and up do not look at the core.
  have hfirst : 0 < 32 := by decide
  cases request with
  | switch target online => exact hfails rfl
  | fast speed online => exact hfails rfl
  | enter => exact (hup.returns_of_follows hrunning h hfirst .enter).ensures
  | exit => exact (hup.returns_of_follows hrunning h hfirst .exit).ensures

/-- If no timeout is allowed, the session is free between calls. -/
theorem free_of_follows (hT : ∀ t, ¬ T t) : s.barrier.inProgress = false := by
  induction h with
  | refl => rfl
  | call core request hbefore hrun ih =>
      rcases outcome_of_call (reached_of_follows hbefore) hrun with
        ⟨htaken, rfl, -⟩ | ⟨hbegins, houtcome⟩
      · exact ih
      · refine houtcome.free hbegins fun t ht => hT t ?_
        exact hup.allowed_of_follows hrunning hbefore core request _ _ hrun t ht

end Upholds

end Controller

end Reclock
