/-
**The lifecycle of the subsystem, and what its snapshot holds.**

The subsystem goes round from active to entering, retained, exiting and active again.  While it is
off, all that says where it was is a snapshot in memory that keeps its power: it must name the
current point, and its trained values must fit the list of the point that they were read at.  State,
current point and snapshot are written at different times, some of them before steps that can fail.
So the lifecycle is followed action by action: whatever the hardware answers, and whether or not a
call comes to an end, every single action keeps to it.

Main definitions:

* `Reclock.Standing` — the current point and the memory of retention;
* `Reclock.Controller.Sealed` — **what a snapshot must be while the subsystem is off**;
* `Reclock.Controller.Advances` — a step of the lifecycle;
* `Reclock.Controller.Orderly` — what holds between calls.

Main results:

* `Reclock.Controller.lives_operation` — every call keeps to the lifecycle;
* `Reclock.Controller.orderly_of_follows` — what holds between calls;
* `Reclock.Controller.lifecycle_kept` — **the lifecycle of a new controller**.
-/

import Reclock.Proofs.Containment
import Reclock.Proofs.Passage

set_option relaxedAutoImplicit false
set_option autoImplicit false

namespace Reclock

/-! ### Steps of the lifecycle -/

/-- The state that a state of retention may be followed by. -/
def RetentionState.next : RetentionState → RetentionState
  | active => entering
  | entering => retained
  | retained => exiting
  | exiting => active

/-- The current point and the memory of retention. -/
structure Standing where
  /-- The point that the subsystem runs at, or ran at before it went off. -/
  current : FrequencyIndex
  /-- The memory of retention. -/
  retention : Retention

/-- Where a system stands. -/
def System.standing {H : Type} (s : System H) : Standing := ⟨s.barrier.current, s.retention⟩

namespace Controller

/-- Trained values that fit the table: as many as the point lists that they were read at, and no
more than a snapshot holds. -/
def Suits (c : Controller) (trained : TrainedValues) : Prop :=
  ∃ timings, c.table.timings? trained.frequency = some timings ∧
    trained.values.length = timings.phyTrained.length ∧ trained.values.length ≤ maxTrained

/-- **What a snapshot must be while the subsystem is off**: it names the current point, which the
table has, and trained values are saved that fit the table. -/
structure Sealed (c : Controller) (v : Standing) : Prop where
  frequency : v.retention.snapshot.frequency = v.current
  listed : ∃ timings, c.table.timings? v.current = some timings
  saved : ∃ trained, v.retention.snapshot.trained = some trained ∧ c.Suits trained

/-- **A step of the lifecycle**: the state stays or moves on by one, trained values once saved stay
as they are, and the snapshot is sealed whenever the subsystem is off. -/
structure Advances (c : Controller) (v v' : Standing) : Prop where
  state : v'.retention.state = v.retention.state ∨
    v'.retention.state = v.retention.state.next
  trained : ∀ trained, v.retention.snapshot.trained = some trained →
    v'.retention.snapshot.trained = some trained
  sealed : v'.retention.state = .retained → c.Sealed v'

/-- Standing still is a step. -/
theorem Advances.stay {c : Controller} {v : Standing}
    (hsealed : v.retention.state = .retained → c.Sealed v) : c.Advances v v :=
  ⟨.inl rfl, fun _ h => h, hsealed⟩

/-- **What holds between calls**: on its way down or up the subsystem is in a session, and the
snapshot is sealed while it is off. -/
structure Orderly {H : Type} (c : Controller) (s : System H) : Prop where
  underway : s.retention.state = .entering ∨ s.retention.state = .exiting →
    s.barrier.inProgress = true
  sealed : s.retention.state = .retained → c.Sealed s.standing
  suits : ∀ trained, s.retention.snapshot.trained = some trained → c.Suits trained

end Controller

/-! ### Actions that leave the lifecycle alone -/

/-- The actions that have nothing to do with the memory of retention. -/
def Action.Apart : Action → Prop
  | .retention _ => False
  | _ => True

/-- Of these, the actions that do not write the current point. -/
def Action.Quiet : Action → Prop
  | .barrier (.writeCurrent _) => False
  | a => a.Apart

theorem Action.Quiet.apart {a : Action} (h : a.Quiet) : a.Apart := by
  cases a with
  | retention a => exact h
  | _ => exact trivial

namespace System

variable {H : Type} {s s' : System H}

theorem standing_settle (s : System H) : s.settle.standing = s.standing := by
  obtain ⟨cores, arrived, hsettle, -⟩ := settle_eq s
  rw [hsettle]
  rfl

theorem standing_of_signal {a : Signal} (h : s.signal a = .ok s') : s'.standing = s.standing := by
  cases a with
  | interrupt targets =>
      cases hraise : s.raise targets with
      | error f => simp [signal, hraise, Except.map] at h
      | ok s₁ =>
          simp only [signal, hraise, Except.map, Except.ok.injEq] at h
          rw [← h, standing_settle, raise_eq_ok hraise]
          rfl
  | event =>
      cases h
      exact standing_settle _
  | flush =>
      cases h
      rfl

variable [RegisterFile H]

/-- Quiet actions leave it where it is how a system stands. -/
theorem standing_answer {a : Action} (hquiet : a.Quiet) (s : System H) :
    (Procedure.left (answer a s)).standing = s.standing := by
  cases a with
  | access a =>
      cases hanswer : RegisterFile.answer a s.hardware <;> simp only [answer, hanswer] <;> rfl
  | signal a =>
      cases hsignal : s.signal a with
      | ok s' =>
          have hstanding := standing_of_signal hsignal
          simp only [answer, hsignal]
          exact hstanding
      | error f =>
          simp only [answer, hsignal]
          rfl
  | log r =>
      simp only [answer]
      split <;> rfl
  | barrier a =>
      cases a with
      | writeCurrent index => exact hquiet.elim
      | awaitArrival cores =>
          cases harrived : s.barrier.arrived.containsAll cores <;>
            simp [answer, BarrierAccess.apply, harrived, Procedure.left]
      | _ => rfl
  | retention a => exact hquiet.elim
  | abort f => rfl

/-- Actions apart from it leave the memory of retention alone. -/
theorem retention_answer {a : Action} (hapart : a.Apart) (s : System H) :
    (Procedure.left (answer a s)).retention = s.retention := by
  by_cases hquiet : a.Quiet
  · exact congrArg Standing.retention (standing_answer hquiet s)
  · cases a with
    | barrier a =>
        cases a with
        | writeCurrent index => rfl
        | _ => exact absurd trivial hquiet
    | retention a => exact hapart.elim
    | _ => exact absurd trivial hquiet

end System

namespace Operation

variable {ε α : Type}

theorem quiet_registers (p : Sequence ε α) : (registers p).Within Action.Quiet := by
  induction p with
  | done a => exact trivial
  | fail e => exact trivial
  | act a next ih => exact ⟨trivial, ih⟩

theorem quiet_quiesce (core : Nat) (online : CoreMask) :
    (quiesce core online : Operation ε Unit).Within Action.Quiet := by
  have hcheck : (checkCore core : Operation ε CoreId).Within Action.Quiet := by
    unfold checkCore
    split
    · exact trivial
    · exact ⟨trivial, nofun⟩
  have hinterrupt : ∀ targets, (interrupt targets : Operation ε Unit).Within Action.Quiet := by
    intro targets
    unfold interrupt
    split
    · exact trivial
    · exact ⟨trivial, fun _ => trivial⟩
  refine Procedure.within_bind hcheck fun own => ?_
  refine Procedure.within_bind ⟨trivial, fun _ => trivial⟩ fun _ => ?_
  refine Procedure.within_bind ⟨trivial, fun _ => trivial⟩ fun _ => ?_
  exact Procedure.within_bind (hinterrupt _) fun _ => ⟨trivial, fun _ => trivial⟩

theorem quiet_release : (release : Operation ε Unit).Within Action.Quiet :=
  ⟨trivial, fun _ => ⟨trivial, fun _ => ⟨trivial, fun _ => trivial⟩⟩⟩

end Operation

namespace Controller

open Operation

variable {H : Type} [RegisterFile H] {c : Controller} {s s' : System H}

/-! ### Runs that keep to the lifecycle -/

/-- **Every action of the run is a step of the lifecycle**, and the end satisfies a condition. -/
abbrev Lives {ε α : Type} (c : Controller) (p : Operation ε α) (s : System H)
    (Q : Except ε α → System H → Prop) : Prop :=
  p.Passes System.answer (fun s₁ s₂ => c.Advances s₁.standing s₂.standing) s Q

theorem lives_quiet {ε α : Type} {p : Operation ε α} (hp : p.Within Action.Quiet)
    (hsealed : s.retention.state = .retained → c.Sealed s.standing) :
    c.Lives p s fun _ s' => s'.standing = s.standing := by
  refine hp.passes (fun a s₁ hquiet => System.standing_answer hquiet s₁) s fun s₁ s₂ h₁ h₂ => ?_
  rw [h₁, h₂]
  exact .stay hsealed

/-- A session ends at a point, if it may stand there. -/
theorem lives_finish {ε : Type} {index : FrequencyIndex}
    (hsealed : s.retention.state = .retained → c.Sealed ⟨index, s.retention⟩) :
    c.Lives (Session.finish index : Operation ε Unit) s fun r s' => r = .ok () ∧
      s' = { s with barrier := { s.barrier with current := index, inProgress := false } } :=
  ⟨⟨.inl rfl, fun _ h => h, hsealed⟩, .stay hsealed, rfl, rfl⟩

omit [RegisterFile H] in
theorem Orderly.claimed (h : c.Orderly s) : c.Orderly s.claimed :=
  ⟨fun _ => rfl, h.sealed, h.suits⟩

/-- A session that is given back leaves the system as it was. -/
theorem lives_cancel {ε : Type} (h : c.Orderly s) (hfree : s.barrier.inProgress = false) :
    c.Lives ((⟨s.barrier.current⟩ : Session).cancel : Operation ε Unit) s.claimed
      fun r s' => r = .ok () ∧ s' = s := by
  refine Procedure.Passes.mono (lives_finish h.sealed) fun r s' hend => ⟨hend.1, ?_⟩
  have hcancel := System.run_cancel (ε := ε) hfree
  rw [System.run, Session.cancel] at hcancel
  rw [hend.2]
  exact congrArg Procedure.left hcancel

theorem lives_refuse {ε α : Type} (h : c.Orderly s) (hfree : s.barrier.inProgress = false)
    (e : ε) : c.Lives ((⟨s.barrier.current⟩ : Session).refuse e : Operation ε α) s.claimed
      fun r s' => r = .error e ∧ s' = s :=
  (lives_cancel h hfree).andThen (fun _ _ hend => ⟨rfl, hend.2⟩) fun _ _ hend => nomatch hend.1

/-- A session is refused, or granted and begun. -/
theorem lives_begin {α : Type} {f : Session → Operation TransitionError α}
    {Q : Except TransitionError α → System H → Prop} (h : c.Orderly s)
    (refused : s.barrier.inProgress = true → Q (.error .busy) s)
    (granted : s.barrier.inProgress = false → c.Lives (f ⟨s.barrier.current⟩) s.claimed Q) :
    c.Lives (Session.begin >>= f) s Q := by
  have hclaim : ∀ next : Bool → Operation TransitionError α,
      c.Lives (next !s.barrier.inProgress) s.claimed Q →
        c.Lives (Operation.barrier .claim >>= next) s Q :=
    fun next hnext => ⟨.stay h.sealed, hnext⟩
  unfold Session.begin
  rw [Procedure.bind_assoc]
  refine hclaim _ ?_
  cases hfree : s.barrier.inProgress with
  | true =>
      rw [System.claimed_of_taken hfree]
      exact refused hfree
  | false => exact ⟨.stay h.claimed.sealed, granted hfree⟩

/-- A step on the memory of retention. -/
theorem lives_retention {ε α : Type} {a : RetentionAccess} {f : a.Reply → Operation ε α}
    {Q : Except ε α → System H → Prop}
    (hstep : c.Advances s.standing ⟨s.barrier.current, (a.apply s.retention).2⟩)
    (h : c.Lives (f (a.apply s.retention).1) { s with retention := (a.apply s.retention).2 } Q) :
    c.Lives (retention a >>= f) s Q :=
  ⟨hstep, h⟩

theorem lives_readState {ε α : Type} {f : RetentionState → Operation ε α}
    {Q : Except ε α → System H → Prop}
    (hsealed : s.retention.state = .retained → c.Sealed s.standing)
    (h : c.Lives (f s.retention.state) s Q) : c.Lives (retention .readState >>= f) s Q :=
  lives_retention (.stay hsealed) h

/-- A session for a switch is refused, or granted in an active subsystem. -/
theorem lives_beginActive {f : Session → Operation TransitionError Unit}
    {Q : Except TransitionError Unit → System H → Prop} (h : c.Orderly s) (refused : Q (.error .busy) s)
    (granted : s.retention.state = .active → s.barrier.inProgress = false →
      c.Lives (f ⟨s.barrier.current⟩) s.claimed Q) :
    c.Lives (beginActive >>= f) s Q := by
  unfold beginActive
  rw [Procedure.bind_assoc]
  refine lives_begin h (fun _ => refused) fun hfree => ?_
  rw [Procedure.bind_assoc]
  refine lives_readState h.claimed.sealed ?_
  change c.Lives ((if s.retention.state = .active then _ else _) >>= f) s.claimed Q
  by_cases hactive : s.retention.state = .active
  · rw [if_pos hactive]
    exact granted hactive hfree
  · rw [if_neg hactive]
    refine (lives_refuse h hfree _).andThen (fun _ _ hend => nomatch hend.1) fun e s' hend => ?_
    obtain ⟨he, rfl⟩ := hend
    cases he
    exact refused

/-! ### Switches -/

/-- What has nothing to do with retention keeps to the lifecycle of an active subsystem. -/
theorem lives_apart {ε α : Type} {p : Operation ε α} (hp : p.Within Action.Apart)
    (hactive : s.retention.state = .active) :
    c.Lives p s fun _ s' => s'.retention = s.retention := by
  refine hp.passes (fun a s₁ hapart => System.retention_answer hapart s₁) s
    fun s₁ s₂ h₁ h₂ => ?_
  refine ⟨.inl ?_, fun trained => ?_, fun hretained => ?_⟩
  · exact congrArg Retention.state (h₂.trans h₁.symm)
  · simp only [System.standing, h₁, h₂]
    exact fun h => h
  · rw [System.standing, h₂, hactive] at hretained
    cases hretained

omit [RegisterFile H] in
/-- An active subsystem is orderly whatever the current point is. -/
theorem Orderly.of_active {s₁ : System H} (h : c.Orderly s) (hactive : s.retention.state = .active)
    (hretention : s₁.retention = s.retention) : c.Orderly s₁ := by
  refine ⟨fun hunder => ?_, fun hretained => ?_, fun trained ht => h.suits trained (hretention ▸ ht)⟩
  · rw [hretention, hactive] at hunder
    rcases hunder with hunder | hunder <;> cases hunder
  · rw [hretention, hactive] at hretained
    cases hretained

theorem apart_switchFrom (c : Controller) (core : Nat) (session : Session) (target : FrequencyIndex)
    (timings : PointTimings) (online : CoreMask) :
    (c.switchFrom core session target timings online).Within Action.Apart := by
  refine Procedure.within_bind ⟨trivial, fun _ => trivial⟩ fun _ => ?_
  refine Procedure.within_bind ((quiet_quiesce core online).mono fun _ h => h.apart) fun _ => ?_
  refine Procedure.within_bind ⟨trivial, fun _ => trivial⟩ fun _ => ?_
  refine Procedure.within_bind (Procedure.within_attempt
    ((quiet_registers _).mono fun _ h => h.apart)) fun outcome => ?_
  cases outcome with
  | error timeout => exact ⟨trivial, fun _ => trivial⟩
  | ok done =>
      refine Procedure.within_bind (quiet_release.mono fun _ h => h.apart) fun _ => ?_
      exact ⟨trivial, fun _ => ⟨trivial, fun _ => ⟨trivial, fun _ => trivial⟩⟩⟩

theorem apart_fastSwitchTo (c : Controller) (core : Nat) (target : FrequencyIndex) (speed : Speed)
    (online : CoreMask) : (c.fastSwitchTo core target speed online).Within Action.Apart := by
  refine Procedure.within_bind ⟨trivial, fun _ => trivial⟩ fun _ => ?_
  refine Procedure.within_bind ((quiet_quiesce core online).mono fun _ h => h.apart) fun _ => ?_
  refine Procedure.within_bind (Procedure.within_attempt
    ((quiet_registers _).mono fun _ h => h.apart)) fun outcome => ?_
  cases outcome with
  | error timeout => exact ⟨trivial, fun _ => trivial⟩
  | ok done =>
      refine Procedure.within_bind (quiet_release.mono fun _ h => h.apart) fun _ => ?_
      exact ⟨trivial, fun _ => ⟨trivial, fun _ => trivial⟩⟩

theorem lives_switchFrequency (h : c.Orderly s) (core : Nat) (target : FrequencyIndex)
    (online : CoreMask) :
    c.Lives (c.switchFrequency core target online) s fun _ s' => c.Orderly s' := by
  refine Procedure.passes_demand (fun _ => h) fun timings _ => ?_
  refine Procedure.passes_require (fun _ => h) fun _ => ?_
  refine Procedure.passes_require (fun _ => h) fun _ => ?_
  refine lives_beginActive h h fun hactive hfree => ?_
  dsimp only
  split
  · exact (lives_cancel h hfree).mono fun _ s' hend => hend.2 ▸ h
  · exact (lives_apart (s := s.claimed) (c.apart_switchFrom core _ target timings online)
      hactive).mono
      fun _ s' hretention => h.of_active hactive hretention

theorem lives_fastSwitch (h : c.Orderly s) (core : Nat) (speed : Speed) (online : CoreMask) :
    c.Lives (c.fastSwitch core speed online) s fun _ s' => c.Orderly s' := by
  refine ⟨.stay h.sealed, ?_⟩
  refine Procedure.passes_demand (fun _ => h) fun pair _ => ?_
  refine Procedure.passes_require (fun _ => h) fun _ => ?_
  refine lives_beginActive h h fun hactive hfree => ?_
  dsimp only
  split
  · exact (lives_refuse h hfree _).mono fun _ s' hend => hend.2 ▸ h
  · split
    · exact (lives_cancel h hfree).mono fun _ s' hend => hend.2 ▸ h
    · exact (lives_apart (s := s.claimed) (c.apart_fastSwitchTo core _ speed online)
        hactive).mono
        fun _ s' hretention => h.of_active hactive hretention

/-! ### The way down -/

/-- A register sequence leaves the lifecycle alone. -/
theorem lives_registers {ε α : Type} (p : Sequence ε α)
    (hsealed : s.retention.state = .retained → c.Sealed s.standing) :
    c.Lives (registers p) s fun r s' => ∃ hardware events, s' = { s with hardware, events } ∧
      RegisterFile.run p s.hardware = .ok r hardware := by
  have hp : p.Ensures RegisterFile.answer s.hardware fun r hardware =>
      RegisterFile.run p s.hardware = .ok r hardware := fun _ _ hrun => hrun
  exact ((lives_quiet (quiet_registers p) hsealed).and_ensures
    (System.ensures_registers hp)).mono fun _ _ h => h.2

theorem lives_log {ε α : Type} {level : LogLevel} {message : String} {f : Unit → Operation ε α}
    {Q : Except ε α → System H → Prop}
    (hsealed : s.retention.state = .retained → c.Sealed s.standing)
    (h : ∀ events, c.Lives (f ()) { s with events } Q) :
    c.Lives (log level message >>= f) s Q := by
  have hlog : ∀ events, System.answer (.log ⟨level, message⟩) s = .ok () { s with events } →
      c.Lives (log level message >>= f) s Q := by
    intro events hanswer
    exact Procedure.passes_act hanswer (.stay hsealed) (h events)
  cases hpasses : (⟨level, message⟩ : LogRecord).passes with
  | false => exact hlog s.events (by simp [System.answer, hpasses])
  | true => exact hlog (s.events.push (.log ⟨level, message⟩)) (by
      simp [System.answer, hpasses, System.record])

theorem lives_flush {ε α : Type} {f : Unit → Operation ε α} {Q : Except ε α → System H → Prop}
    (hsealed : s.retention.state = .retained → c.Sealed s.standing)
    (h : ∀ events flushes, c.Lives (f ()) { s with events, flushes } Q) :
    c.Lives (signal .flush >>= f) s Q :=
  ⟨.stay hsealed, h _ _⟩

/-- A subsystem on its way down: what is saved suits the table, and once the way is done, the
snapshot names the point and trained values are saved. -/
structure Lowering (c : Controller) (current : FrequencyIndex) (s : System H)
    (r : Except PollTimeout Unit) (s' : System H) : Prop where
  state : s'.retention.state = .entering
  barrier : s'.barrier = s.barrier
  suits : ∀ trained, s'.retention.snapshot.trained = some trained → c.Suits trained
  saved : r = .ok () → s'.retention.snapshot.frequency = current ∧
    ∃ trained, s'.retention.snapshot.trained = some trained

/-- Any step of a subsystem that stays on its way down, if trained values stay. -/
theorem Advances.lowering {v v' : Standing} (hbefore : v.retention.state = .entering)
    (hafter : v'.retention.state = .entering)
    (htrained : ∀ trained, v.retention.snapshot.trained = some trained →
      v'.retention.snapshot.trained = some trained) : c.Advances v v' :=
  ⟨.inl (hafter.trans hbefore.symm), htrained, fun h => nomatch hafter.symm.trans h⟩

theorem lives_saveSnapshot {current : FrequencyIndex} {timings : PointTimings}
    (hstate : s.retention.state = .entering)
    (hsuits : ∀ trained, s.retention.snapshot.trained = some trained → c.Suits trained)
    (htimings : c.table.timings? current = some timings)
    (hretainable : timings.retainable = true) :
    c.Lives (saveSnapshot current timings) s (c.Lowering current s) := by
  have hsealed : s.retention.state = .retained → c.Sealed s.standing := by
    intro h
    cases hstate.symm.trans h
  refine lives_retention (.stay hsealed) ?_
  dsimp only [RetentionAccess.apply]
  cases htrained : s.retention.snapshot.trained with
  | some trained =>
      refine ⟨.lowering hstate hstate fun _ h => ?_, hstate, rfl, ?_, ?_⟩
      · exact htrained.symm.trans h
      · rintro _ ⟨⟩
        exact hsuits _ htrained
      · exact fun _ => ⟨rfl, _, rfl⟩
  | none =>
      have hlength := ensures_readTrained timings s.hardware
      refine (lives_registers _ hsealed).andThen (fun values s₁ hend => ?_) fun e s₁ hend => ?_
      · obtain ⟨hardware, events, rfl, hread⟩ := hend
        refine ⟨.lowering hstate hstate fun _ h => ?_, hstate, rfl, ?_, ?_⟩
        · cases htrained.symm.trans h
        · rintro _ ⟨⟩
          have hvalues := hlength _ _ hread values rfl
          have hroom := (PointTimings.retainable_iff.1 hretainable).2
          exact ⟨timings, htimings, hvalues, hvalues ▸ hroom⟩
        · exact fun _ => ⟨rfl, _, rfl⟩
      · obtain ⟨hardware, events, rfl, -⟩ := hend
        refine ⟨hstate, rfl, hsuits, ?_⟩
        rintro ⟨⟩

theorem lives_powerDown {current : FrequencyIndex} {timings : PointTimings}
    (hstate : s.retention.state = .entering)
    (hsuits : ∀ trained, s.retention.snapshot.trained = some trained → c.Suits trained)
    (htimings : c.table.timings? current = some timings)
    (hretainable : timings.retainable = true) :
    c.Lives (c.powerDown current timings) s (c.Lowering current s) := by
  have hsealed : ∀ {s₁ : System H}, s₁.retention.state = .entering →
      s₁.retention.state = .retained → c.Sealed s₁.standing :=
    fun h h' => nomatch h.symm.trans h'
  refine (lives_registers _ (hsealed hstate)).andThen (fun _ s₁ hend => ?_) fun e s₁ hend => ?_
  · obtain ⟨hardware, events, rfl, -⟩ := hend
    refine (lives_saveSnapshot (s := { s with hardware, events }) hstate hsuits htimings
      hretainable).andThen (fun _ s₂ h₂ => ?_) fun e s₂ h₂ => ⟨h₂.state, h₂.barrier, h₂.suits, nofun⟩
    refine lives_flush (hsealed h₂.state) fun events₂ flushes => ?_
    refine (lives_registers (s := { s₂ with events := events₂, flushes }) _
      (hsealed h₂.state)).mono fun r s₃ hend => ?_
    obtain ⟨hardware, events, rfl, -⟩ := hend
    exact ⟨h₂.state, h₂.barrier, h₂.suits, fun _ => h₂.saved rfl⟩
  · obtain ⟨hardware, events, rfl, -⟩ := hend
    exact ⟨hstate, rfl, hsuits, nofun⟩

theorem lives_enterFrom {timings : PointTimings} (h : c.Orderly s)
    (htimings : c.table.timings? s.barrier.current = some timings)
    (hretainable : timings.retainable = true) :
    c.Lives (c.enterFrom ⟨s.barrier.current⟩ timings)
      { s.claimed with retention := { s.retention with state := .entering } }
      fun _ s' => c.Orderly s' := by
  refine lives_log nofun fun events => ?_
  have hdown := lives_powerDown (c := c) (s := { s.claimed with
    retention := { s.retention with state := .entering }, events }) rfl h.suits htimings hretainable
  refine Procedure.Passes.andThen (P := fun outcome s₁ => ∃ r, outcome = .ok r ∧ c.Lowering
    s.barrier.current s.claimed r s₁) ?_ (fun outcome s₁ hend => ?_) fun e s₁ hend => ?_
  · rw [Procedure.passes_attempt]
    exact hdown.mono fun r s₁ hlowering =>
      ⟨r, rfl, hlowering.state, hlowering.barrier, hlowering.suits, hlowering.saved⟩
  · obtain ⟨r, hr, hlowering⟩ := hend
    cases hr
    cases outcome with
    | error t =>
        -- The way down has failed on the way: nobody gets the session any more.
        refine lives_log (fun hretained => nomatch hlowering.state.symm.trans hretained)
          fun events => ⟨fun _ => ?_, fun hretained => ?_, hlowering.suits⟩
        · exact congrArg Barrier.inProgress hlowering.barrier
        · cases hlowering.state.symm.trans hretained
    | ok _ =>
        obtain ⟨hfrequency, trained, htrained⟩ := hlowering.saved rfl
        have hcurrent : s₁.barrier.current = s.barrier.current :=
          (congrArg Barrier.current hlowering.barrier :)
        have hsealed : c.Sealed
            ⟨s.barrier.current, { s₁.retention with state := .retained }⟩ :=
          ⟨hfrequency, ⟨timings, htimings⟩, trained, htrained, hlowering.suits trained htrained⟩
        refine lives_retention ⟨.inr ?_, fun _ h => h, fun _ => hcurrent ▸ hsealed⟩ ?_
        · rw [System.standing, hlowering.state]
          rfl
        · refine (lives_finish fun _ => hsealed).mono fun r s₂ hend => ?_
          obtain ⟨-, rfl⟩ := hend
          exact ⟨nofun, fun _ => hsealed, hlowering.suits⟩
  · obtain ⟨r, hr, -⟩ := hend
    cases hr

theorem lives_enterRetention (h : c.Orderly s) :
    c.Lives c.enterRetention s fun _ s' => c.Orderly s' := by
  refine lives_begin h (fun _ => h) fun hfree => ?_
  dsimp only
  split
  · exact (lives_refuse h hfree _).mono fun _ s' hend => hend.2 ▸ h
  case h_2 timings htimings =>
    obtain ⟨hfound, hretainable⟩ := Option.filter_eq_some_iff.1 htimings
    by_cases hactive : s.retention.state = .active
    · have hentry : RetentionAccess.beginEntry.apply s.claimed.retention =
          (true, { s.retention with state := .entering }) := by
        simp [RetentionAccess.apply, System.claimed, hactive]
      refine lives_retention ?_ ?_
      · rw [hentry]
        refine ⟨.inr (congrArg RetentionState.next hactive.symm), fun _ h => h, fun hoff => ?_⟩
        cases hoff
      · rw [hentry]
        exact lives_enterFrom h hfound hretainable
    · have hentry : RetentionAccess.beginEntry.apply s.claimed.retention =
          (false, s.retention) := by
        simp [RetentionAccess.apply, System.claimed, hactive]
      refine lives_retention ?_ ?_
      · rw [hentry]
        exact .stay h.sealed
      · rw [hentry]
        exact (lives_refuse h hfree _).mono fun _ s' hend => hend.2 ▸ h

/-! ### The way up -/

/-- The way up never meets a corrupted snapshot: it ends in a timeout, or it succeeds. -/
theorem lives_exitTo (h : c.Orderly s) (hretained : s.retention.state = .retained) :
    c.Lives (c.exitTo ⟨s.barrier.current⟩ s.retention.snapshot)
      { s.claimed with retention := { s.retention with state := .exiting } }
      fun r s' => c.Orderly s' ∧ ∀ e, r = .error e → ∃ t, e = .pollTimeout t := by
  obtain ⟨hfrequency, ⟨timings, htimings⟩, -⟩ := h.sealed hretained
  have hfound : c.table.timings? s.retention.snapshot.frequency = some timings :=
    hfrequency ▸ htimings
  unfold exitTo
  dsimp only
  rw [hfound]
  refine Procedure.Passes.andThen (P := fun outcome s₁ => ∃ r hardware events, outcome = .ok r ∧
    s₁ = { s.claimed with
      retention := { s.retention with state := .exiting }, hardware, events }) ?_
    (fun outcome s₁ hend => ?_) fun e s₁ hend => ?_
  · rw [Procedure.passes_attempt]
    refine (lives_registers _ (by nofun)).mono fun r s₁ hend => ?_
    obtain ⟨hardware, events, rfl, -⟩ := hend
    exact ⟨r, hardware, events, rfl, rfl⟩
  · obtain ⟨r, hardware, events, hr, rfl⟩ := hend
    cases hr
    cases outcome with
    | error t =>
        refine lives_log nofun fun events => ⟨⟨fun _ => rfl, nofun, h.suits⟩, ?_⟩
        rintro _ ⟨⟩
        exact ⟨t, rfl⟩
    | ok _ =>
        refine lives_retention ⟨.inr rfl, fun _ h => h, nofun⟩ ?_
        refine (lives_finish (by nofun)).andThen (fun _ s₂ hend => ?_)
          fun e s₂ hend => by cases hend.1
        obtain ⟨-, rfl⟩ := hend
        exact lives_log (f := .done) nofun fun events => ⟨⟨nofun, nofun, h.suits⟩, nofun⟩
  · obtain ⟨r, hardware, events, hr, -⟩ := hend
    cases hr

/-- There is no way up from a subsystem that is not off. -/
theorem run_exitRetention_of_ne (hstate : s.retention.state ≠ .retained) :
    System.run c.exitRetention s = .ok (.error .notRetained) s := by
  have hread := System.run_retention (ε := TransitionError) .readState s
  rw [System.run] at hread
  rw [System.run, exitRetention, Procedure.run_bind_of_ok hread]
  simp [RetentionAccess.apply, Procedure.require, hstate, Procedure.run]

theorem lives_exitRetention (h : c.Orderly s) (hretained : s.retention.state = .retained) :
    c.Lives c.exitRetention s fun r s' => c.Orderly s' ∧
      ∀ e, r = .error e → e = .busy ∨ ∃ t, e = .pollTimeout t := by
  refine lives_readState h.sealed ?_
  refine Procedure.passes_require (fun hother => ?_) fun _ => ?_
  · exact absurd hretained (of_decide_eq_false hother)
  refine lives_begin h (fun _ => ⟨h, ?_⟩) fun hfree => ?_
  · rintro _ ⟨⟩
    exact .inl rfl
  have hexit : RetentionAccess.beginExit.apply s.claimed.retention =
      (some s.retention.snapshot, { s.retention with state := .exiting }) := by
    simp [RetentionAccess.apply, System.claimed, hretained]
  refine lives_retention ?_ ?_
  · rw [hexit]
    refine ⟨.inr (congrArg RetentionState.next hretained.symm), fun _ h => h, fun hoff => ?_⟩
    cases hoff
  · rw [hexit]
    exact (lives_exitTo h hretained).mono fun r s' hend =>
      ⟨hend.1, fun e he => .inr (hend.2 e he)⟩

/-! ### All calls -/

/-- **Every call keeps to the lifecycle**, whatever the hardware answers. -/
theorem lives_operation (h : c.Orderly s) (core : Nat) (request : Request) :
    c.Lives (c.operation core request) s fun _ s' => c.Orderly s' := by
  cases request with
  | switch target online => exact lives_switchFrequency h core target online
  | fast speed online => exact lives_fastSwitch h core speed online
  | enter => exact lives_enterRetention h
  | exit =>
      by_cases hretained : s.retention.state = .retained
      · exact (lives_exitRetention h hretained).mono fun _ _ hend => hend.1
      · refine lives_readState h.sealed ?_
        refine Procedure.passes_require (fun _ => h) fun hmet => ?_
        exact absurd (of_decide_eq_true hmet) hretained

omit [RegisterFile H] in
theorem orderly_start (hardware : H) (current : FrequencyIndex) :
    c.Orderly (System.start hardware c.coreCount current) :=
  ⟨nofun, nofun, nofun⟩

/-- **Between calls** everything is orderly. -/
theorem orderly_of_follows (h : c.Follows s s') (hs : c.Orderly s) : c.Orderly s' :=
  h.preserves (J := c.Orderly)
    (fun _ core request _ _ hs hrun => (lives_operation hs core request).ensures _ _ hrun) hs

/-- Trained values once saved stay as they are. -/
theorem trained_of_follows (h : c.Follows s s') (hs : c.Orderly s) {trained : TrainedValues}
    (htrained : s.retention.snapshot.trained = some trained) :
    s'.retention.snapshot.trained = some trained := by
  have hboth : c.Orderly s' ∧ s'.retention.snapshot.trained = some trained := by
    refine h.preserves (J := fun s₁ => c.Orderly s₁ ∧ s₁.retention.snapshot.trained = some trained)
      (fun s₁ core request r s₂ hs₁ hrun => ?_) ⟨hs, htrained⟩
    have hlives := lives_operation hs₁.1 core request
    refine ⟨hlives.ensures _ _ hrun, ?_⟩
    exact hlives.preserves (J := fun s => s.retention.snapshot.trained = some trained)
      (fun _ _ hstep hbefore => hstep.trained _ hbefore) hs₁.2 _ _ hrun
  exact hboth.2

/-! ### The lifecycle of a new controller -/

/-- **The lifecycle is kept.**  After any calls of a new controller, with any table, at any current
point and whatever the hardware answers: on its way down or up the subsystem is in a session; while
it is off, its snapshot is sealed; and every single action of any further call moves the state on by
at most one, leaves trained values as they are once they are saved, and never leaves the subsystem
off without a sealed snapshot.  Saved trained values stay the same through any further calls.  The
way up is refused as such exactly if the subsystem is not off, and never for its snapshot. -/
theorem lifecycle_kept {hardware : H} {current : FrequencyIndex}
    (h : c.Follows (System.start hardware c.coreCount current) s) :
    (s.retention.state = .entering ∨ s.retention.state = .exiting → s.barrier.inProgress = true) ∧
      (s.retention.state = .retained → c.Sealed s.standing) ∧
      (∀ core request, (c.operation core request).Passes System.answer
        (fun s₁ s₂ => c.Advances s₁.standing s₂.standing) s fun _ _ => True) ∧
      (∀ trained s', s.retention.snapshot.trained = some trained → c.Follows s s' →
        s'.retention.snapshot.trained = some trained) ∧
      (∀ core, (∃ s', System.run (c.operation core .exit) s = .ok (.error .notRetained) s') ↔
        s.retention.state ≠ .retained) ∧
      ∀ core index s', System.run (c.operation core .exit) s ≠
        .ok (.error (.invalidIndex index)) s' := by
  have horderly := orderly_of_follows h (orderly_start hardware current)
  refine ⟨horderly.underway, horderly.sealed, fun core request => ?_, fun trained s' ht hs' => ?_,
    fun core => ⟨?_, fun hstate => ?_⟩, fun core index s' hrun => ?_⟩
  · exact (lives_operation horderly core request).mono fun _ _ _ => trivial
  · exact trained_of_follows hs' horderly ht
  · rintro ⟨s', hrun⟩ hretained
    rcases ((lives_exitRetention horderly hretained).ensures _ _ hrun).2 _ rfl with he | ⟨t, he⟩ <;>
      cases he
  · exact ⟨s, run_exitRetention_of_ne hstate⟩
  · by_cases hretained : s.retention.state = .retained
    · rcases ((lives_exitRetention horderly hretained).ensures _ _ hrun).2 _ rfl with he | ⟨t, he⟩ <;>
        cases he
    · have hrefused := run_exitRetention_of_ne (c := c) hretained
      rw [operation] at hrun
      cases hrun.symm.trans hrefused

/-- The sample board goes off with a sealed snapshot, and its first trained values stay. -/
theorem lifecycle_kept_off :
    ∃ s, Board.controller.Follows (System.start Hardware.booted Board.coreCount ⟨0⟩) s ∧
      s.retention.state = .retained ∧ Board.controller.Sealed s.standing ∧
        ∃ trained, s.retention.snapshot.trained = some trained ∧
          ∀ s', Board.controller.Follows s s' → s'.retention.snapshot.trained = some trained := by
  obtain ⟨_, s, hrun, hoff⟩ : (Board.controller.operation 0 .enter).Completes System.answer
      (System.start Hardware.booted Board.coreCount ⟨0⟩)
        fun _ s => decide (s.retention.state = .retained) = true :=
    Procedure.completes_of_finished? (by decide +kernel)
  have hfollows : Board.controller.Follows
      (System.start Hardware.booted Board.controller.coreCount ⟨0⟩) s := .call 0 .enter .refl hrun
  obtain ⟨-, hsealed, -, hstays, -⟩ := lifecycle_kept hfollows
  have hretained := of_decide_eq_true hoff
  obtain ⟨trained, htrained, -⟩ := (hsealed hretained).saved
  exact ⟨s, hfollows, hretained, hsealed hretained, trained, htrained,
    fun s' hs' => hstays trained s' htrained hs'⟩

end Controller

end Reclock
