/-
**The operations keep to the protocol of a session.**

Each of the four transitions is taken apart once, action by action, under the protocol.  What the
system as a whole does is then derived from the protocol alone, and a change of a transition that
still keeps to it changes nothing else.  A bare session, which parks the other cores and lets them
go without doing anything in between, keeps to the protocol as well.

Main definitions:

* `Reclock.Request` — a transition with its arguments, and `Reclock.Request.purpose`;
* `Reclock.Controller.operation` — the operation that carries out a request;
* `Reclock.Session.visit` — a bare session.

Main results:

* `Reclock.Controller.operation_keeps` — **every transition keeps to the protocol**;
* `Reclock.Session.visit_keeps` — so does a bare session.
-/

import Reclock.Proofs.Protocol
import Reclock.Transition.FastSwitch
import Reclock.Transition.Retention

set_option relaxedAutoImplicit false
set_option autoImplicit false

namespace Reclock

/-! ### Requests -/

/-- A transition with its arguments. -/
inductive Request
  /-- Switches the frequency. -/
  | switch (target : FrequencyIndex) (online : CoreMask)
  /-- Switches the speed. -/
  | fast (speed : Speed) (online : CoreMask)
  /-- Powers the subsystem down. -/
  | enter
  /-- Powers the subsystem up. -/
  | exit
  deriving DecidableEq

/-- What a transition is there for. -/
def Request.purpose : Request → Purpose
  | switch _ online => .parks online
  | fast _ online => .parks online
  | enter => .powersDown
  | exit => .powersUp

/-- The operation that carries out a request on a core. -/
def Controller.operation (c : Controller) (core : Nat) : Request → Operation TransitionError Unit
  | .switch target online => c.switchFrequency core target online
  | .fast speed online => c.fastSwitch core speed online
  | .enter => c.enterRetention
  | .exit => c.exitRetention

/-- **A bare session**: the other cores are parked and let go, and the current point stays. -/
def Session.visit (core : Nat) (online : CoreMask) : Operation TransitionError Unit := do
  let session ← Session.begin
  Operation.quiesce core online
  Operation.release
  session.cancel

namespace Controller

variable {b : Brief}

/-! ### Switches -/

/-- A session of an active subsystem, which is refused outside the session or after it. -/
theorem keeps_beginActive {Q : Except TransitionError Session → Stage → Prop}
    (refused : ∀ s : Stage, s.tenure = .outside ∨ s.tenure = .over ∧ s.power ≠ .entered →
      Q (.error .busy) s)
    (granted : ∀ current, Q (.ok ⟨current⟩) { tenure := .seated current, power := .active }) :
    beginActive.Keeps (protocol b) {} Q := by
  unfold beginActive
  simp only [Procedure.keeps_bind]
  refine keeps_begin rfl (refused _ (Or.inl rfl)) fun current => ?_
  refine keeps_retention (by simp [Stage.Allows]) fun state => ?_
  by_cases hstate : state = .active
  · subst hstate
    exact granted current
  · have hstays : Stage.after { tenure := .seated current } (.retention .readState) state =
        { tenure := .seated current } := by
      simp [Stage.after, hstate]
    rw [hstays]
    simp only [hstate, if_false]
    refine keeps_refuse ⟨current, rfl, Or.inl rfl, Or.inl ⟨rfl, ?_, ?_⟩⟩
      (refused _ (Or.inr ⟨rfl, ?_⟩))
    · simp
    · simp
    · simp

theorem keeps_switchFrom (c : Controller) (core : Nat) (current target : FrequencyIndex)
    (timings : PointTimings) (online : CoreMask) (honline : c.admits online = true) :
    (c.switchFrom core ⟨current⟩ target timings online).Keeps
      (protocol ⟨c.coreCount, core, .parks online⟩) { tenure := .seated current, power := .active }
      (Stage.Ends ⟨c.coreCount, core, .parks online⟩) := by
  have hseated : ∀ parking, Stage.Seated ⟨.seated current, parking, .active⟩ := fun _ => ⟨_, rfl⟩
  unfold switchFrom
  simp only [Procedure.keeps_bind, Procedure.keeps_attempt]
  refine keeps_log nofun ?_
  refine keeps_quiesce rfl honline (hseated _) rfl (Or.inr rfl) ?_
  refine keeps_flush (hseated _) ?_
  refine keeps_registers _ (hseated _) (Or.inl ⟨rfl, rfl⟩) fun outcome => ?_
  cases outcome with
  | error timeout =>
      simp only [Procedure.keeps_bind]
      exact keeps_log nofun (Or.inr (Or.inr ⟨hseated _, Or.inl ⟨rfl, rfl⟩⟩))
  | ok done =>
      simp only [Procedure.keeps_bind]
      refine keeps_release (hseated _) rfl ?_
      refine keeps_finish ⟨current, rfl, Or.inr rfl, Or.inr (Or.inl ⟨rfl, rfl⟩)⟩ ?_
      exact keeps_log nofun ⟨rfl, nofun⟩

/-- Where an operation may end that gives a session of an active subsystem straight back. -/
theorem ends_over (online : CoreMask) (cores core : Nat) (r : Except TransitionError Unit) :
    Stage.Ends ⟨cores, core, .parks online⟩ r ⟨.over, .unasked, .active⟩ := by
  cases r with
  | error e => exact Or.inr (Or.inl ⟨rfl, nofun⟩)
  | ok done => exact ⟨rfl, nofun⟩

/-- Where an operation may end whose session is refused. -/
theorem ends_refused {e : TransitionError} {s : Stage}
    (hs : s.tenure = .outside ∨ s.tenure = .over ∧ s.power ≠ .entered) :
    Stage.Ends b (.error e : Except TransitionError Unit) s := by
  rcases hs with h | h
  · exact Or.inl h
  · exact Or.inr (Or.inl h)

/-- A session that has done nothing may record the point that it began with. -/
theorem mayRecord_begun (current : FrequencyIndex) :
    Stage.MayRecord ⟨.seated current, .unasked, .active⟩ current :=
  ⟨current, rfl, Or.inl rfl, Or.inl ⟨rfl, nofun, nofun⟩⟩

theorem switchFrequency_keeps (c : Controller) (core : Nat) (target : FrequencyIndex)
    (online : CoreMask) :
    (c.switchFrequency core target online).Keeps (protocol ⟨c.coreCount, core, .parks online⟩) {}
      (Stage.Ends ⟨c.coreCount, core, .parks online⟩) := by
  unfold switchFrequency
  simp only [Procedure.keeps_bind]
  refine Procedure.keeps_demand (fun _ => Or.inl rfl) fun timings _ => ?_
  refine Procedure.keeps_require (fun _ => Or.inl rfl) fun _ => ?_
  refine Procedure.keeps_require (fun _ => Or.inl rfl) fun honline => ?_
  refine keeps_beginActive (fun s hs => ends_refused hs) fun current => ?_
  dsimp only
  split
  · exact keeps_finish (mayRecord_begun current) (ends_over _ _ _ _)
  · exact keeps_switchFrom c core current target timings online honline

theorem keeps_fastSwitchTo (c : Controller) (core : Nat) (current target : FrequencyIndex)
    (speed : Speed) (online : CoreMask) (honline : c.admits online = true) :
    (c.fastSwitchTo core target speed online).Keeps
      (protocol ⟨c.coreCount, core, .parks online⟩) { tenure := .seated current, power := .active }
      (Stage.Ends ⟨c.coreCount, core, .parks online⟩) := by
  have hseated : ∀ parking, Stage.Seated ⟨.seated current, parking, .active⟩ := fun _ => ⟨_, rfl⟩
  unfold fastSwitchTo
  simp only [Procedure.keeps_bind, Procedure.keeps_attempt]
  refine keeps_log nofun ?_
  refine keeps_quiesce rfl honline (hseated _) rfl (Or.inr rfl) ?_
  refine keeps_registers _ (hseated _) (Or.inl ⟨rfl, rfl⟩) fun outcome => ?_
  cases outcome with
  | error timeout =>
      simp only [Procedure.keeps_bind]
      exact keeps_log nofun (Or.inr (Or.inr ⟨hseated _, Or.inl ⟨rfl, rfl⟩⟩))
  | ok done =>
      simp only [Procedure.keeps_bind]
      refine keeps_release (hseated _) rfl ?_
      exact keeps_finish ⟨current, rfl, Or.inr rfl, Or.inr (Or.inl ⟨rfl, rfl⟩)⟩ ⟨rfl, nofun⟩

theorem fastSwitch_keeps (c : Controller) (core : Nat) (speed : Speed) (online : CoreMask) :
    (c.fastSwitch core speed online).Keeps (protocol ⟨c.coreCount, core, .parks online⟩) {}
      (Stage.Ends ⟨c.coreCount, core, .parks online⟩) := by
  unfold fastSwitch
  simp only [Procedure.keeps_bind]
  -- The current point is read before the session as well, but only for the first refusal.
  refine ⟨Or.inl rfl, fun before => ?_⟩
  refine Procedure.keeps_demand (fun _ => Or.inl rfl) fun pair _ => ?_
  refine Procedure.keeps_require (fun _ => Or.inl rfl) fun honline => ?_
  refine keeps_beginActive (fun s hs => ends_refused hs) fun current => ?_
  dsimp only
  split
  · exact keeps_refuse (mayRecord_begun current) (ends_over _ _ _ _)
  · split
    · exact keeps_finish (mayRecord_begun current) (ends_over _ _ _ _)
    · exact keeps_fastSwitchTo c core current _ speed online honline

/-! ### Retention -/

theorem keeps_saveSnapshot {Q : Except PollTimeout Unit → Stage → Prop} (current : FrequencyIndex)
    (timings : PointTimings) (htimeout : ∀ e, Q (.error e) ⟨.seated current, .unasked, .entering⟩)
    (hsaved : Q (.ok ()) ⟨.seated current, .unasked, .saved⟩) :
    (saveSnapshot current timings).Keeps (protocol b) ⟨.seated current, .unasked, .entering⟩ Q := by
  unfold saveSnapshot
  rw [Procedure.keeps_bind]
  refine keeps_retention ⟨⟨current, rfl⟩, rfl⟩ fun snapshot => ?_
  dsimp only
  cases snapshot.trained with
  | some trained => exact keeps_retention ⟨rfl, rfl⟩ fun _ => hsaved
  | none =>
      dsimp only
      rw [Procedure.keeps_bind]
      refine keeps_registers _ ⟨current, rfl⟩ (Or.inr (Or.inl rfl)) fun values => ?_
      cases values with
      | error timeout => exact htimeout _
      | ok values => exact keeps_retention ⟨rfl, rfl⟩ fun _ => hsaved

theorem keeps_enterFrom (c : Controller) (core : Nat) (current : FrequencyIndex)
    (timings : PointTimings) :
    (c.enterFrom ⟨current⟩ timings).Keeps (protocol ⟨c.coreCount, core, .powersDown⟩)
      ⟨.seated current, .unasked, .entering⟩ (Stage.Ends ⟨c.coreCount, core, .powersDown⟩) := by
  have hseated : ∀ power, Stage.Seated ⟨.seated current, .unasked, power⟩ := fun _ => ⟨_, rfl⟩
  have hentering : Stage.Drives ⟨.seated current, .unasked, .entering⟩ := Or.inr (Or.inl rfl)
  have hsaved : Stage.Drives ⟨.seated current, .unasked, .saved⟩ := Or.inr (Or.inr (Or.inl rfl))
  -- A timeout ends the operation where it is, still holding the session.
  have htimeout : ∀ (power : Power) (timeout : PollTimeout),
      Stage.Drives ⟨.seated current, .unasked, power⟩ →
      (do Operation.log .error ("DRAM retention entry failed: " ++ timeout.message)
          .fail (.pollTimeout timeout) : Operation TransitionError Unit).Keeps
        (protocol ⟨c.coreCount, core, .powersDown⟩) ⟨.seated current, .unasked, power⟩
        (Stage.Ends ⟨c.coreCount, core, .powersDown⟩) := by
    intro power timeout hdrives
    rw [Procedure.keeps_bind]
    exact keeps_log nofun (Or.inr (Or.inr ⟨hseated _, hdrives⟩))
  unfold enterFrom powerDown
  simp only [Procedure.keeps_bind, Procedure.keeps_attempt]
  refine keeps_log nofun ?_
  refine keeps_registers _ (hseated _) hentering fun outcome => ?_
  cases outcome with
  | error timeout => exact htimeout _ timeout hentering
  | ok done =>
      refine keeps_saveSnapshot current timings ?_ ?_
      · exact fun timeout => htimeout _ timeout hentering
      · refine keeps_flush (hseated _) ?_
        refine keeps_registers _ (hseated _) hsaved fun outcome => ?_
        cases outcome with
        | error timeout => exact htimeout _ timeout hsaved
        | ok done =>
            simp only [Procedure.keeps_bind]
            refine keeps_retention ⟨hseated _, rfl⟩ fun _ => ?_
            exact keeps_finish ⟨current, rfl, Or.inl rfl, Or.inl ⟨rfl, nofun, nofun⟩⟩
              ⟨rfl, fun _ => rfl⟩

theorem enterRetention_keeps (c : Controller) (core : Nat) :
    c.enterRetention.Keeps (protocol ⟨c.coreCount, core, .powersDown⟩) {}
      (Stage.Ends ⟨c.coreCount, core, .powersDown⟩) := by
  unfold enterRetention
  rw [Procedure.keeps_bind]
  refine keeps_begin rfl (Or.inl rfl) fun current => ?_
  have hrefuse : ∀ e : TransitionError,
      (Session.refuse ⟨current⟩ e : Operation TransitionError Unit).Keeps
        (protocol ⟨c.coreCount, core, .powersDown⟩) ⟨.seated current, .unasked, .unseen⟩
        (Stage.Ends ⟨c.coreCount, core, .powersDown⟩) := fun e =>
    keeps_refuse ⟨current, rfl, Or.inl rfl, Or.inl ⟨rfl, nofun, nofun⟩⟩
      (Or.inr (Or.inl ⟨rfl, nofun⟩))
  dsimp only
  split
  · exact hrefuse _
  · rw [Procedure.keeps_bind]
    refine keeps_retention ⟨⟨current, rfl⟩, rfl, rfl, rfl⟩ fun granted => ?_
    cases granted with
    | false => exact hrefuse _
    | true => exact keeps_enterFrom c core current _

theorem keeps_exitTo (c : Controller) (core : Nat) (current : FrequencyIndex)
    (snapshot : Snapshot) :
    (c.exitTo ⟨current⟩ snapshot).Keeps (protocol ⟨c.coreCount, core, .powersUp⟩)
      ⟨.seated current, .unasked, .exiting snapshot.frequency⟩
      (Stage.Ends ⟨c.coreCount, core, .powersUp⟩) := by
  have hseated : ∀ power, Stage.Seated ⟨.seated current, .unasked, power⟩ := fun _ => ⟨_, rfl⟩
  have hdrives : Stage.Drives ⟨.seated current, .unasked, .exiting snapshot.frequency⟩ :=
    Or.inr (Or.inr (Or.inr ⟨_, rfl⟩))
  unfold exitTo
  dsimp only
  split
  · exact keeps_refuse ⟨current, rfl, Or.inl rfl, Or.inl ⟨rfl, nofun, nofun⟩⟩
      (Or.inr (Or.inl ⟨rfl, nofun⟩))
  · simp only [Procedure.keeps_bind, Procedure.keeps_attempt]
    refine keeps_registers _ (hseated _) hdrives fun outcome => ?_
    cases outcome with
    | error timeout =>
        simp only [Procedure.keeps_bind]
        exact keeps_log nofun (Or.inr (Or.inr ⟨hseated _, hdrives⟩))
    | ok done =>
        simp only [Procedure.keeps_bind]
        refine keeps_retention ⟨hseated _, _, rfl⟩ fun _ => ?_
        refine keeps_finish ⟨current, rfl, Or.inl rfl, Or.inr (Or.inr rfl)⟩ ?_
        exact keeps_log nofun ⟨rfl, nofun⟩

theorem exitRetention_keeps (c : Controller) (core : Nat) :
    c.exitRetention.Keeps (protocol ⟨c.coreCount, core, .powersUp⟩) {}
      (Stage.Ends ⟨c.coreCount, core, .powersUp⟩) := by
  unfold exitRetention
  simp only [Procedure.keeps_bind]
  refine keeps_retention nofun fun state => ?_
  refine Procedure.keeps_require (fun _ => Or.inl rfl) fun _ => ?_
  refine keeps_begin rfl (Or.inl rfl) fun current => ?_
  dsimp only
  refine keeps_retention ⟨⟨current, rfl⟩, rfl, rfl, rfl⟩ fun snapshot => ?_
  cases snapshot with
  | none =>
      exact keeps_refuse ⟨current, rfl, Or.inl rfl, Or.inl ⟨rfl, nofun, nofun⟩⟩
        (Or.inr (Or.inl ⟨rfl, nofun⟩))
  | some snapshot => exact keeps_exitTo c core current snapshot

/-! ### All transitions -/

/-- **Every transition keeps to the protocol**, on every core and with any arguments. -/
theorem operation_keeps (c : Controller) (core : Nat) (request : Request) :
    (c.operation core request).Keeps (protocol ⟨c.coreCount, core, request.purpose⟩) {}
      (Stage.Ends ⟨c.coreCount, core, request.purpose⟩) := by
  cases request with
  | switch target online => exact c.switchFrequency_keeps core target online
  | fast speed online => exact c.fastSwitch_keeps core speed online
  | enter => exact c.enterRetention_keeps core
  | exit => exact c.exitRetention_keeps core

end Controller

/-- What is left of a bare session once the other cores are parked. -/
def Session.leaving (current : FrequencyIndex) : Operation TransitionError Unit := do
  Operation.release
  Session.cancel ⟨current⟩

/-- A bare session that has cores to park, action by action. -/
theorem Session.visit_eq {core : Nat} {online : CoreMask} {own : CoreId}
    (hcore : CoreId.ofNat core = .ok own) (hothers : (online.erase own).isEmpty = false) :
    Session.visit core online =
      .act (.barrier .claim) fun free =>
        if free then
          .act (.barrier .readCurrent) fun current =>
            .act (.barrier .clearArrived) fun _ =>
              .act (.barrier .hold) fun _ =>
                .act (.signal (.interrupt (online.erase own))) fun _ =>
                  .act (.barrier (.awaitArrival (online.erase own))) fun _ =>
                    Session.leaving current
        else .fail .busy := by
  unfold Session.visit Session.begin Operation.quiesce Operation.checkCore
  simp only [Operation.barrier, Operation.signal, Operation.interrupt, hcore, hothers,
    Procedure.act_bind, Procedure.done_bind]
  congr 1
  funext free
  cases free with
  | false => rfl
  | true => rfl

theorem Session.keeps_visit {b : Brief} {online : CoreMask}
    {Q : Except TransitionError Unit → Stage → Prop} (hpurpose : b.purpose = .parks online)
    (honline : (CoreMask.all b.cores).containsAll online = true) (refused : Q (.error .busy) {})
    (done : Q (.ok ()) { tenure := .over, parking := .released }) :
    (Session.visit b.core online).Keeps (protocol b) {} Q := by
  unfold Session.visit
  rw [Procedure.keeps_bind]
  refine keeps_begin rfl refused fun current => ?_
  have hseated : ∀ parking, Stage.Seated ⟨.seated current, parking, .unseen⟩ := fun _ => ⟨_, rfl⟩
  simp only [Procedure.keeps_bind]
  refine keeps_quiesce hpurpose honline (hseated _) rfl (Or.inl rfl) ?_
  refine keeps_release (hseated _) rfl ?_
  exact keeps_finish ⟨current, rfl, Or.inr rfl, Or.inl ⟨rfl, nofun, nofun⟩⟩ done

/-- **A bare session keeps to the protocol**, if it parks only cores of the system. -/
theorem Session.visit_keeps {b : Brief} {online : CoreMask} (hpurpose : b.purpose = .parks online)
    (honline : (CoreMask.all b.cores).containsAll online = true) :
    (Session.visit b.core online).Keeps (protocol b) {} (Stage.Ends b) := by
  refine Session.keeps_visit hpurpose honline (Or.inl rfl) ⟨rfl, ?_⟩
  rw [hpurpose]
  nofun

/-- A bare session is always given back. -/
theorem Session.visit_returns {b : Brief} {online : CoreMask} (hpurpose : b.purpose = .parks online)
    (honline : (CoreMask.all b.cores).containsAll online = true) :
    (Session.visit b.core online).Keeps (protocol b) {} fun _ s => s.holds = false :=
  Session.keeps_visit hpurpose honline rfl rfl

end Reclock
