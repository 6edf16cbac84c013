/-
**The protocol of a session.**

An operation claims the session, reads the current point, does what it is there for and gives the
session back.  What it may do next depends on what it has done: it parks the other cores step by
step and lets them go step by step, touches registers only where it has made sure that it may, and
records a new current point only at the end.  The stage of an operation sums up the actions that it
has made, and the protocol is the monitor that says which actions each stage allows.

The stage has three parts that move by different actions: the claim on the session, the parking of
the other cores, and what the operation has done about retention.

Main definitions:

* `Reclock.Purpose`, `Reclock.Brief` — what an operation is there for, and who runs it;
* `Reclock.Tenure`, `Reclock.Parking`, `Reclock.Power`, `Reclock.Stage` — how far it is;
* `Reclock.Stage.after`, `Reclock.Stage.Allows`, `Reclock.Stage.Ends` — where an action leads, which
  actions are allowed, and where an operation may end;
* `Reclock.protocol` — **the protocol as a monitor**.

Main results:

* `Reclock.keeps_begin`, `keeps_finish`, `keeps_refuse`, `keeps_quiesce`, `keeps_release`,
  `keeps_registers` — what the parts of an operation do to its stage.
-/

import Reclock.Operation
import Reclock.Proofs.Membership
import Reclock.Proofs.Monitor

set_option relaxedAutoImplicit false
set_option autoImplicit false

namespace Reclock

/-! ### What an operation is there for -/

/-- What an operation is there for. -/
inductive Purpose
  /-- To change something while the online cores are parked. -/
  | parks (online : CoreMask)
  /-- To power the subsystem down. -/
  | powersDown
  /-- To power the subsystem up. -/
  | powersUp
  deriving DecidableEq

/-- What is known of an operation from the start. -/
structure Brief where
  /-- The number of cores in the system. -/
  cores : Nat
  /-- The core that runs the operation. -/
  core : Nat
  /-- What the operation is there for. -/
  purpose : Purpose

/-- The cores that an operation parks: the online ones but its own. -/
def Brief.others (b : Brief) : CoreMask :=
  match b.purpose, CoreId.ofNat b.core with
  | .parks online, .ok own => online.erase own
  | _, _ => .empty

/-! ### How far an operation is -/

/-- How far an operation is with its claim on the session. -/
inductive Tenure
  /-- It has not been granted the session. -/
  | outside
  /-- It has been granted the session and reads the current point next. -/
  | granted
  /-- It holds the session, which began at this point. -/
  | seated (current : FrequencyIndex)
  /-- It has recorded the current point and gives the session back next. -/
  | recorded
  /-- It has given the session back. -/
  | over
  deriving DecidableEq

/-- How far an operation is with parking the other cores. -/
inductive Parking
  /-- It has not begun. -/
  | unasked
  /-- The arrivals are forgotten. -/
  | cleared
  /-- The hold is set. -/
  | held
  /-- The cores are interrupted. -/
  | raised
  /-- The cores have arrived. -/
  | parked
  /-- The epoch has advanced. -/
  | advanced
  /-- The hold is dropped. -/
  | dropped
  /-- The event is sent. -/
  | released
  deriving DecidableEq

/-- What an operation knows and has done about retention. -/
inductive Power
  /-- It has not seen the subsystem active. -/
  | unseen
  /-- It has seen the subsystem active, in its session. -/
  | active
  /-- It has begun the way down. -/
  | entering
  /-- It has recorded the snapshot. -/
  | saved
  /-- It has powered the subsystem down. -/
  | entered
  /-- It has begun the way up, to this point. -/
  | exiting (index : FrequencyIndex)
  /-- It has powered the subsystem up, at this point. -/
  | exited (index : FrequencyIndex)
  deriving DecidableEq

/-- **The stage of an operation**: what the actions that it has made amount to. -/
structure Stage where
  /-- How far it is with its claim on the session. -/
  tenure : Tenure := .outside
  /-- How far it is with parking the other cores. -/
  parking : Parking := .unasked
  /-- What it has done about retention. -/
  power : Power := .unseen
  deriving DecidableEq

namespace Stage

/-- Whether the operation holds the session. -/
def holds (s : Stage) : Bool :=
  match s.tenure with
  | .granted | .seated _ | .recorded => true
  | .outside | .over => false

/-- **The stage after an action.** -/
def after (s : Stage) : (a : Action) → a.Reply → Stage
  | .signal (.interrupt _), _ => { s with parking := .raised }
  | .signal .event, _ => { s with parking := .released }
  | .barrier .claim, free => if free then { s with tenure := .granted } else s
  | .barrier .unclaim, _ => { s with tenure := .over }
  | .barrier .readCurrent, current =>
      if s.tenure = .granted then { s with tenure := .seated current } else s
  | .barrier (.writeCurrent _), _ => { s with tenure := .recorded }
  | .barrier .clearArrived, _ => { s with parking := .cleared }
  | .barrier .hold, _ => { s with parking := .held }
  | .barrier (.awaitArrival _), _ => { s with parking := .parked }
  | .barrier .advanceEpoch, _ => { s with parking := .advanced }
  | .barrier .unhold, _ => { s with parking := .dropped }
  | .retention .readState, state =>
      match s.tenure, s.power with
      | .seated _, .unseen => if state = .active then { s with power := .active } else s
      | _, _ => s
  | .retention (.writeState .retained), _ => { s with power := .entered }
  | .retention (.writeState .active), _ =>
      match s.power with
      | .exiting index => { s with power := .exited index }
      | _ => s
  | .retention .beginEntry, granted => if granted then { s with power := .entering } else s
  | .retention .beginExit, some snapshot => { s with power := .exiting snapshot.frequency }
  | .retention (.writeSnapshot _), _ => { s with power := .saved }
  | _, _ => s

/-- What an operation does about retention moves neither its claim nor its parking. -/
theorem after_retention (s : Stage) (a : RetentionAccess) (r : a.Reply) :
    (s.after (.retention a) r).tenure = s.tenure ∧
      (s.after (.retention a) r).parking = s.parking := by
  cases a with
  | readState =>
      simp only [after]
      split
      case h_1 => split <;> exact ⟨rfl, rfl⟩
      case h_2 => exact ⟨rfl, rfl⟩
  | writeState state =>
      cases state with
      | active =>
          simp only [after]
          split <;> exact ⟨rfl, rfl⟩
      | _ => exact ⟨rfl, rfl⟩
  | beginEntry => cases r <;> exact ⟨rfl, rfl⟩
  | beginExit => cases r <;> exact ⟨rfl, rfl⟩
  | readSnapshot => exact ⟨rfl, rfl⟩
  | writeSnapshot snapshot => exact ⟨rfl, rfl⟩

/-- The operation holds the session and knows the current point. -/
def Seated (s : Stage) : Prop := ∃ current, s.tenure = .seated current

/-- The operation may touch registers: the others are parked and it has seen the subsystem active,
or it is on the way down or up. -/
def Drives (s : Stage) : Prop :=
  (s.parking = .parked ∧ s.power = .active) ∨ s.power = .entering ∨ s.power = .saved ∨
    ∃ index, s.power = .exiting index

/-- The operation may record a point as the current one: always the point that its session began
with, another one only after a release of an active subsystem, or the one it has powered up. -/
def MayRecord (s : Stage) (index : FrequencyIndex) : Prop :=
  ∃ current, s.tenure = .seated current ∧ (s.parking = .unasked ∨ s.parking = .released) ∧
    ((index = current ∧ s.power ≠ .entering ∧ s.power ≠ .saved) ∨
      (s.parking = .released ∧ s.power = .active) ∨ s.power = .exited index)

/-- **The actions that a stage allows.** -/
def Allows (b : Brief) (s : Stage) : Action → Prop
  | .access _ => s.Seated ∧ s.Drives
  | .signal (.interrupt targets) =>
      s.Seated ∧ s.parking = .held ∧ targets = b.others ∧
        (CoreMask.all b.cores).containsAll targets = true
  | .signal .event => s.Seated ∧ s.parking = .dropped
  | .signal .flush => s.Seated
  -- Giving the session back is the last thing that the way down does.
  | .log _ => s.tenure = .over → s.power ≠ .entered
  | .barrier .claim => s.tenure = .outside
  | .barrier .unclaim => s.tenure = .recorded
  | .barrier .readCurrent => s.tenure = .outside ∨ s.tenure = .granted
  | .barrier (.writeCurrent index) => s.MayRecord index
  | .barrier .clearArrived =>
      s.Seated ∧ s.parking = .unasked ∧ (s.power = .unseen ∨ s.power = .active) ∧
        ∃ online, b.purpose = .parks online
  | .barrier .hold => s.Seated ∧ s.parking = .cleared
  | .barrier (.awaitArrival cores) =>
      s.Seated ∧ cores = b.others ∧
        (s.parking = .raised ∨ s.parking = .held ∧ cores.isEmpty = true)
  | .barrier .advanceEpoch => s.Seated ∧ s.parking = .parked
  | .barrier .unhold => s.Seated ∧ s.parking = .advanced
  | .retention .readState => s.tenure ≠ .over
  | .retention (.writeState .retained) => s.Seated ∧ s.power = .saved
  | .retention (.writeState .active) => s.Seated ∧ ∃ index, s.power = .exiting index
  | .retention (.writeState _) => False
  | .retention .beginEntry =>
      s.Seated ∧ s.parking = .unasked ∧ s.power = .unseen ∧ b.purpose = .powersDown
  | .retention .beginExit =>
      s.Seated ∧ s.parking = .unasked ∧ s.power = .unseen ∧ b.purpose = .powersUp
  | .retention .readSnapshot => s.Seated ∧ s.power = .entering
  | .retention (.writeSnapshot snapshot) =>
      s.tenure = .seated snapshot.frequency ∧ s.power = .entering
  -- A core whose number no set can hold gets no further than that.
  | .abort _ => s.Seated ∧ 32 ≤ b.core

/-- An operation that does not hold the session, or does not know the current point yet, may only
look, claim the session, give it back and emit log records. -/
theorem allows_aside {b : Brief} {s : Stage} {a : Action} (h : s.Allows b a) (hs : ¬ s.Seated) :
    (∃ record, a = .log record) ∨ a = .barrier .claim ∨ a = .barrier .unclaim ∨
      a = .barrier .readCurrent ∨ a = .retention .readState := by
  cases a with
  | access a => exact absurd h.1 hs
  | signal a =>
      cases a with
      | interrupt targets => exact absurd h.1 hs
      | event => exact absurd h.1 hs
      | flush => exact absurd h hs
  | log record => exact Or.inl ⟨record, rfl⟩
  | barrier a =>
      cases a with
      | claim => simp
      | unclaim => simp
      | readCurrent => simp
      | writeCurrent index =>
          obtain ⟨current, htenure, -⟩ := h
          exact absurd ⟨current, htenure⟩ hs
      | clearArrived => exact absurd h.1 hs
      | hold => exact absurd h.1 hs
      | awaitArrival cores => exact absurd h.1 hs
      | advanceEpoch => exact absurd h.1 hs
      | unhold => exact absurd h.1 hs
  | retention a =>
      cases a with
      | readState => simp
      | writeState state =>
          cases state with
          | active => exact absurd h.1 hs
          | retained => exact absurd h.1 hs
          | entering => exact h.elim
          | exiting => exact h.elim
      | beginEntry => exact absurd h.1 hs
      | beginExit => exact absurd h.1 hs
      | readSnapshot => exact absurd h.1 hs
      | writeSnapshot snapshot => exact absurd ⟨_, h.1⟩ hs
  | abort a => exact absurd h.1 hs

/-- Where an operation may end: with success only after it has given the session back, and with an
error also without the session, or in the middle of driving the hardware. -/
def Ends (b : Brief) {ε α : Type} (result : Except ε α) (s : Stage) : Prop :=
  match result with
  | .ok _ => s.tenure = .over ∧ (b.purpose = .powersDown → s.power = .entered)
  | .error _ =>
      s.tenure = .outside ∨ (s.tenure = .over ∧ s.power ≠ .entered) ∨ (s.Seated ∧ s.Drives)

end Stage

/-- **The protocol of a session** as a monitor. -/
def protocol (b : Brief) : Monitor Action.Reply Stage := ⟨Stage.Allows b, Stage.after⟩

@[simp] theorem allows_protocol (b : Brief) (s : Stage) (a : Action) :
    (protocol b).allows s a = s.Allows b a := rfl

@[simp] theorem after_protocol (b : Brief) (s : Stage) (a : Action) (r : a.Reply) :
    (protocol b).after s a r = s.after a r := rfl

/-! ### The parts of an operation -/

section Parts

variable {ε α : Type} {b : Brief} {s : Stage}

/-- A claim is refused without any effect, or grants a session that knows the current point. -/
theorem keeps_begin {Q : Except TransitionError Session → Stage → Prop}
    (hs : s.tenure = .outside) (refused : Q (.error .busy) s)
    (granted : ∀ current, Q (.ok ⟨current⟩) { s with tenure := .seated current }) :
    Session.begin.Keeps (protocol b) s Q := by
  refine ⟨hs, fun free => ?_⟩
  cases free with
  | false => exact refused
  | true => exact ⟨Or.inr rfl, fun current => granted current⟩

theorem keeps_finish {Q : Except ε Unit → Stage → Prop} {index : FrequencyIndex}
    (hs : s.MayRecord index) (hQ : Q (.ok ()) { s with tenure := .over }) :
    (Session.finish index).Keeps (protocol b) s Q :=
  ⟨hs, fun _ => ⟨rfl, fun _ => hQ⟩⟩

theorem keeps_refuse {Q : Except ε α → Stage → Prop} {session : Session} {e : ε}
    (hs : s.MayRecord session.current) (hQ : Q (.error e) { s with tenure := .over }) :
    (session.refuse e : Operation ε α).Keeps (protocol b) s Q := by
  unfold Session.refuse Session.cancel
  rw [Procedure.keeps_bind]
  exact keeps_finish hs hQ

theorem keeps_log {Q : Except ε Unit → Stage → Prop} {level : LogLevel} {message : String}
    (hs : s.tenure = .over → s.power ≠ .entered) (hQ : Q (.ok ()) s) :
    (Operation.log level message).Keeps (protocol b) s Q :=
  ⟨hs, fun _ => hQ⟩

theorem keeps_flush {Q : Except ε Unit → Stage → Prop} (hs : s.Seated) (hQ : Q (.ok ()) s) :
    (Operation.signal .flush).Keeps (protocol b) s Q :=
  ⟨hs, fun _ => hQ⟩

theorem keeps_retention {a : RetentionAccess} {Q : Except ε a.Reply → Stage → Prop}
    (hs : s.Allows b (.retention a)) (hQ : ∀ r, Q (.ok r) (s.after (.retention a) r)) :
    (Operation.retention a).Keeps (protocol b) s Q :=
  ⟨hs, hQ⟩

/-- A register sequence leaves the stage as it is. -/
theorem keeps_registers {Q : Except ε α → Stage → Prop} (p : Sequence ε α) (hs : s.Seated)
    (hdrives : s.Drives) (hQ : ∀ r, Q r s) :
    (Operation.registers p).Keeps (protocol b) s Q :=
  Procedure.keeps_embed p (fun _ => ⟨hs, hdrives⟩) (fun _ _ => rfl) hQ

theorem others_eq {online : CoreMask} {own : CoreId} (hcore : CoreId.ofNat b.core = .ok own)
    (hpurpose : b.purpose = .parks online) : b.others = online.erase own := by
  simp [Brief.others, hcore, hpurpose]

/-- **Parking the other cores** takes an operation from unasked to parked. -/
theorem keeps_quiesce {Q : Except ε Unit → Stage → Prop} {online : CoreMask}
    (hpurpose : b.purpose = .parks online)
    (honline : (CoreMask.all b.cores).containsAll online = true) (hs : s.Seated)
    (hparking : s.parking = .unasked) (hpower : s.power = .unseen ∨ s.power = .active)
    (hQ : Q (.ok ()) { s with parking := .parked }) :
    (Operation.quiesce b.core online).Keeps (protocol b) s Q := by
  unfold Operation.quiesce Operation.checkCore
  cases hcore : CoreId.ofNat b.core with
  | error f =>
      refine ⟨⟨hs, ?_⟩, fun r => nomatch r⟩
      by_contra hlt
      have hlt : b.core < 32 := Nat.lt_of_not_le hlt
      simp [CoreId.ofNat, hlt] at hcore
  | ok own =>
      have hothers := others_eq hcore hpurpose
      refine ⟨⟨hs, hparking, hpower, online, hpurpose⟩, fun _ => ⟨⟨hs, rfl⟩, fun _ => ?_⟩⟩
      unfold Operation.interrupt
      cases hempty : (online.erase own).isEmpty with
      | true => exact ⟨⟨hs, hothers.symm, Or.inr ⟨rfl, hempty⟩⟩, fun _ => hQ⟩
      | false =>
          exact ⟨⟨hs, rfl, hothers.symm, CoreMask.containsAll_erase own honline⟩,
            fun _ => ⟨⟨hs, hothers.symm, Or.inl rfl⟩, fun _ => hQ⟩⟩

/-- **Letting the parked cores go** takes an operation from parked to released. -/
theorem keeps_release {Q : Except ε Unit → Stage → Prop} (hs : s.Seated)
    (hparking : s.parking = .parked) (hQ : Q (.ok ()) { s with parking := .released }) :
    Operation.release.Keeps (protocol b) s Q :=
  ⟨⟨hs, hparking⟩, fun _ => ⟨⟨hs, rfl⟩, fun _ => ⟨⟨hs, rfl⟩, fun _ => hQ⟩⟩⟩

end Parts

end Reclock
